import Folio.Scanner.Basic
import Folio.Scanner.CharStream

/-!
# Scanning a byte stream

* **`scanStream`**: scan the characters of a stream; a stream that cannot be read ends the scan with
  an error.
-/

namespace Folio

/-- **Scan a byte stream**; `fault` words its read errors. -/
def scanStream {ε σ : Type} (fault : ReadError → ε) (signals : List Signal) (options : ScanOptions)
    (offer : Offer ε σ) (sink : σ) : Except ε Unit × σ :=
  scan options offer ((charsOf signals).map fun c => c.mapError fault) sink

end Folio
