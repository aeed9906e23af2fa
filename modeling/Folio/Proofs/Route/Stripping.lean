import Folio.Proofs.Scanner.Rooted
import Folio.Proofs.Text.Casing
import Folio.Route.Table

/-!
# What follows the application root

The router takes the application root off a path. It cuts the path after as many bytes as the root
has, and the root may be written in any case of the letters A to Z. A path that is the root without
the slashes at its end leads to the root as well.

* `head?_appRootAt`, `appRootAt_appRootAt`: an application root is that of itself.
* `slashes`, `eq_trimSlashes_append`, `trimSlashes_append`: a text without the slashes at its end.
* **`Below`**: what follows the root in a path.
* **`belowRoot?_eq_some_iff`**: the router finds it.
* `Below.unique`, `not_below_of_letters`: it is one rest, and there is none where no slash follows
  the letters of the root.
* **`RouteTable.appRelative_exact`**: the relative path of every path.
-/

namespace Folio

/-! ## Application roots -/

theorem head?_appRootAt (virtualPath : String) :
    (appRootAt virtualPath).toList.head? = some '/' := by
  have hopened : (if virtualPath.toList.head? = some '/' then virtualPath
      else "/" ++ virtualPath).toList.head? = some '/' := by
    split
    · assumption
    · rw [String.toList_append]
      rfl
  unfold appRootAt
  dsimp only
  generalize (if virtualPath.toList.head? = some '/' then virtualPath else _) = opened at hopened ⊢
  split
  · exact hopened
  · rw [String.toList_append, List.head?_append, hopened, Option.some_or]

/-- An application root is that of itself. -/
theorem appRootAt_appRootAt (virtualPath : String) :
    appRootAt (appRootAt virtualPath) = appRootAt virtualPath := by
  have hhead := head?_appRootAt virtualPath
  have hlast := getLast?_appRootAt virtualPath
  generalize appRootAt virtualPath = root at hhead hlast ⊢
  rw [appRootAt, if_pos hhead, if_pos hlast]

/-- So many slashes. -/
def slashes (n : Nat) : String :=
  String.ofList (List.replicate n '/')

namespace RouteTable

theorem toList_trimSlashes (text : String) :
    (trimSlashes text).toList = text.toList.rdropWhile (· == '/') := by
  rw [trimSlashes, String.toList_ofList, List.rdropWhile]

theorem getLast?_trimSlashes (text : String) : (trimSlashes text).toList.getLast? ≠ some '/' := by
  rw [toList_trimSlashes]
  intro hlast
  have hne : text.toList.rdropWhile (· == '/') ≠ [] := by
    intro hnil
    rw [hnil] at hlast
    cases hlast
  have hnot := List.rdropWhile_last_not (· == '/') text.toList hne
  rw [List.getLast?_eq_some_getLast hne, Option.some.injEq] at hlast
  rw [hlast] at hnot
  exact hnot rfl

/-- What is trimmed is slashes. -/
theorem eq_trimSlashes_append (text : String) : ∃ n, text = trimSlashes text ++ slashes n := by
  have hslashes := List.eq_replicate_of_mem fun c hc =>
    eq_of_beq (List.mem_rtakeWhile_imp (p := (· == '/')) (l := text.toList) hc)
  refine ⟨(text.toList.rtakeWhile (· == '/')).length, ?_⟩
  rw [← String.toList_inj, String.toList_append, toList_trimSlashes, slashes,
    String.toList_ofList, ← hslashes, List.rdropWhile_append_rtakeWhile]

/-- All slashes at the end are trimmed. -/
theorem trimSlashes_append {text : String} (h : text.toList.getLast? ≠ some '/') (n : Nat) :
    trimSlashes (text ++ slashes n) = text := by
  rw [← String.toList_inj, toList_trimSlashes, String.toList_append, slashes,
    String.toList_ofList]
  induction n with
  | zero =>
    rw [List.replicate_zero, List.append_nil, List.rdropWhile_eq_self_iff]
    intro hne hslash
    rw [beq_iff_eq] at hslash
    apply h
    rw [List.getLast?_eq_some_getLast hne, hslash]
  | succ n ih =>
    rw [List.replicate_succ', ← List.append_assoc, List.rdropWhile_concat_pos _ _ _ rfl, ih]

end RouteTable

/-! ## Below the root -/

/-- **What follows the root in a path**, up to the case of the letters A to Z. The root may lack the
slashes at its end if nothing follows it. -/
inductive Below (root : String) : String → String → Prop
  | under {start rest : String} (h : asciiEqual start root = true) :
    Below root (start ++ rest) rest
  | bare {path start : String} {n : Nat} (hroot : root = start ++ slashes n)
    (hopen : start.toList.getLast? ≠ some '/') (h : asciiEqual path start = true) :
    Below root path ""

variable {root path rest : String}

theorem Below.self (root rest : String) : Below root (root ++ rest) rest :=
  .under (asciiEqual_self root)

namespace RouteTable

/-- **The router finds what follows the root.** -/
theorem belowRoot?_eq_some_iff : belowRoot? root path = some rest ↔ Below root path rest := by
  unfold belowRoot?
  dsimp only
  constructor
  · have hbare (h : (if asciiEqual path (trimSlashes root) then some "" else none) = some rest) :
        Below root path rest := by
      split at h
      · next hequal =>
        obtain rfl := Option.some.inj h
        obtain ⟨n, hroot⟩ := eq_trimSlashes_append root
        exact .bare hroot (getLast?_trimSlashes root) hequal
      · cases h
    intro h
    split at h
    · next start after hsplit =>
      split at h
      · next hequal =>
        obtain ⟨rfl, -⟩ := Utf8.splitText?_eq_some_iff.mp hsplit
        obtain rfl := Option.some.inj h
        exact .under hequal
      · exact hbare h
    · exact hbare h
  · intro h
    cases h with
    | @under start rest h =>
      rw [Utf8.splitText?_eq_some_iff.mpr ⟨rfl, asciiEqual_utf8ByteSize h⟩]
      dsimp only
      rw [if_pos h]
    | @bare path start n hroot hopen h =>
      have htrim : asciiEqual path (trimSlashes root) = true := by
        rwa [hroot, trimSlashes_append hopen]
      rw [if_pos htrim]
      split
      · next first last hsplit =>
        -- The root is as long as the path at least, so a cut leaves nothing.
        obtain ⟨hpath, hsize⟩ := Utf8.splitText?_eq_some_iff.mp hsplit
        have hlast : last = "" := by
          have hpathSize := congrArg String.utf8ByteSize hpath
          have hrootSize := congrArg String.utf8ByteSize hroot
          rw [String.utf8ByteSize_append] at hpathSize hrootSize
          have hstart := asciiEqual_utf8ByteSize h
          rw [← String.utf8ByteSize_eq_zero_iff]
          omega
        rw [hlast, ite_self]
      · rfl

/-- No cut is made inside of a character. -/
example : belowRoot? "/ab/" "/abä" = none := by decide +kernel

theorem belowRoot?_eq_none_iff : belowRoot? root path = none ↔ ∀ rest, ¬ Below root path rest := by
  rw [Option.eq_none_iff_forall_ne_some]
  exact forall_congr' fun rest => not_congr belowRoot?_eq_some_iff

end RouteTable

/-- One rest follows the root. -/
theorem Below.unique {other : String} (h : Below root path rest) (h' : Below root path other) :
    rest = other := by
  have hrest := RouteTable.belowRoot?_eq_some_iff.mpr h
  have hother := RouteTable.belowRoot?_eq_some_iff.mpr h'
  exact Option.some.inj (hrest.symm.trans hother)

/-- **Sharing the letters of the root is not enough**: a slash has to follow them. -/
theorem not_below_of_letters {start bare more : String} {n : Nat}
    (hroot : root = bare ++ slashes (n + 1)) (hopen : bare.toList.getLast? ≠ some '/')
    (hletters : asciiEqual start bare = true) (hmore : more ≠ "")
    (hslash : more.toList.head? ≠ some '/') : ¬ Below root (start ++ more) rest := by
  intro hbelow
  generalize hpath : start ++ more = path at hbelow
  have hcs := congrArg (List.map Char.toLower) (congrArg String.toList hpath)
  rw [String.toList_append, List.map_append, asciiEqual_iff.mp hletters] at hcs
  cases hbelow with
  | @under first rest h =>
    rw [String.toList_append, List.map_append, asciiEqual_iff.mp h, hroot, String.toList_append,
      List.map_append, List.append_assoc, List.append_cancel_left_eq, slashes,
      String.toList_ofList, List.replicate_succ] at hcs
    cases hlist : more.toList with
    | nil => exact hmore (String.toList_eq_nil_iff.mp hlist)
    | cons c cs =>
      rw [hlist] at hcs hslash
      have hc : (c.toLower == '/') = (c == '/') := apply_toLower (f := (· == '/')) (by decide) c
      rw [(List.cons.inj hcs).1] at hc
      exact hslash (congrArg some (eq_of_beq hc.symm))
  | @bare path first k hfirst hopen' h =>
    have hsame : first = bare := by
      rw [← RouteTable.trimSlashes_append hopen' k, ← hfirst, hroot,
        RouteTable.trimSlashes_append hopen]
    rw [asciiEqual_iff.mp h, hsame, List.append_right_eq_self, List.map_eq_nil_iff] at hcs
    exact hmore (String.toList_eq_nil_iff.mp hcs)

/-! ## Relative paths -/

namespace RouteTable

variable {η : Type}

/-- A relative path as the options ask for it. -/
def asked (lowercasePaths : Bool) (relative : String) : String :=
  if lowercasePaths then lowercase relative else relative

theorem appRelative?_eq (table : RouteTable η) (path : String) :
    table.appRelative? path = (belowRoot? table.options.appRoot path).map fun rest =>
      asked table.options.lowercasePaths ("~/" ++ rest) :=
  rfl

/-- **The root is taken off exactly.** A path has a relative path if the root stands before a rest,
up to the case of the letters A to Z, or if it is the root without the slashes at its end; and then
the relative path is the rest after `~/`, in lower case if asked for. The cut is made after as many
bytes as the root has, and there a character ends. A path that goes on after the letters of the root
with another character than a slash lies outside. The root is that of itself. -/
theorem appRelative_exact (virtualPath : String) (lowercasePaths : Bool)
    (routes : List (Route η)) (fallback : Option (String × η)) (path : String) :
    let root := appRootAt virtualPath
    let table : RouteTable η := ⟨routes, fallback, .ofPath virtualPath lowercasePaths⟩
    (∀ relative, table.appRelative? path = some relative ↔
      ∃ rest, Below root path rest ∧ relative = asked lowercasePaths ("~/" ++ rest)) ∧
    (table.appRelative? path = none ↔ ∀ rest, ¬ Below root path rest) ∧
    (∀ rest other, Below root path rest → Below root path other → rest = other) ∧
    (∀ start rest, path = start ++ rest → asciiEqual start root = true →
      Utf8.splitText? root.utf8ByteSize path = some (start, rest)) ∧
    (∀ start bare more n, path = start ++ more → root = bare ++ slashes n →
      bare.toList.getLast? ≠ some '/' → asciiEqual start bare = true →
      more ≠ "" → more.toList.head? ≠ some '/' → table.appRelative? path = none) ∧
    appRootAt root = root := by
  intro root table
  have hrelative : table.appRelative? path = (belowRoot? root path).map fun rest =>
      asked lowercasePaths ("~/" ++ rest) := appRelative?_eq table path
  have hnone : table.appRelative? path = none ↔ ∀ rest, ¬ Below root path rest := by
    rw [hrelative, Option.map_eq_none_iff, belowRoot?_eq_none_iff]
  refine ⟨fun relative => ?_, hnone, fun rest other => Below.unique, ?_, ?_,
    appRootAt_appRootAt virtualPath⟩
  · rw [hrelative, Option.map_eq_some_iff]
    refine exists_congr fun rest => ?_
    rw [belowRoot?_eq_some_iff, eq_comm (a := relative)]
  · intro start rest hpath hstart
    exact Utf8.splitText?_eq_some_iff.mpr ⟨hpath, asciiEqual_utf8ByteSize hstart⟩
  · intro start bare more n hpath hroot hopen hletters hmore hslash
    rw [hnone, hpath]
    cases n with
    | zero =>
      -- A root ends in a slash, so it is not bare.
      have hlast := getLast?_appRootAt virtualPath
      rw [show appRootAt virtualPath = bare ++ slashes 0 from hroot] at hlast
      exact absurd (by simpa [slashes] using hlast) hopen
    | succ n => exact fun rest => not_below_of_letters hroot hopen hletters hmore hslash

/-- A path below a root with a letter beyond ASCII, one without the last slash, and one that goes on
with another letter. -/
theorem appRelative_exact_shop :
    let table : RouteTable Nat := ⟨[], none, .ofPath "Läden/Shop" true⟩
    table.appRelative? "/läden/SHOP/Über" = some "~/über" ∧
      table.appRelative? "/LäDEN/shop" = some "~/" ∧ table.appRelative? "/Läden/Shops" = none := by
  intro table
  have hroot : appRootAt "Läden/Shop" = "/Läden/Shop/" := by decide +kernel
  obtain ⟨hbelow, -, -, -, -, -⟩ :=
    appRelative_exact (η := Nat) "Läden/Shop" true [] none "/läden/SHOP/Über"
  obtain ⟨hbare, -, -, -, -, -⟩ :=
    appRelative_exact (η := Nat) "Läden/Shop" true [] none "/LäDEN/shop"
  obtain ⟨-, -, -, -, hother, -⟩ :=
    appRelative_exact (η := Nat) "Läden/Shop" true [] none "/Läden/Shops"
  rw [hroot] at hbelow hbare hother
  have hcase : asciiEqual "/läden/SHOP/" "/Läden/Shop/" = true := by decide +kernel
  have hslash : "/Läden/Shop/" = "/Läden/Shop" ++ slashes 1 := by decide +kernel
  have hpath : "/läden/SHOP/Über" = "/läden/SHOP/" ++ "Über" := by decide +kernel
  refine ⟨(hbelow _).mpr ⟨"Über", ?_, by decide +kernel⟩, (hbare _).mpr ⟨"", ?_, by decide +kernel⟩,
    ?_⟩
  · rw [hpath]
    exact .under hcase
  · exact .bare hslash (by decide +kernel) (by decide +kernel)
  · exact hother "/Läden/Shop" "/Läden/Shop" "s" 1 (by decide +kernel) (by decide +kernel)
      (by decide +kernel) (by decide +kernel) (by decide +kernel) (by decide +kernel)

end RouteTable

end Folio
