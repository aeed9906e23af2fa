/-!
# Errors

What can go wrong while a site is assembled or a page is rendered, as causes, and the one place
where each cause is worded.

* `Signature`: the two shapes of a constructor call.
* `ReadError`: a byte stream that cannot be read as text.
* `ConfigurationError`: bad registrations, look-ups and route declarations.
* **`RenderError`**: every error a page can end with; `RenderError.kind` sorts them into four kinds.
-/

namespace Folio

/-- What a constructor is called with: the context alone, or the context and a model. -/
inductive Signature
  | context
  | contextAndModel
  deriving DecidableEq, Inhabited, Repr

/-- A signature as it stands in messages. -/
def Signature.text : Signature → String
  | .context => "(context)"
  | .contextAndModel => "(context, model)"

/-- The name of a signature. -/
def Signature.name : Signature → String
  | .context => "Context"
  | .contextAndModel => "ContextAndModel"

/-- Why a byte stream could not be read as text. -/
inductive ReadError
  /-- A sequence that is not UTF-8, met while characters were read one at a time. -/
  | malformedCharacter
  /-- A stream read as a whole that is not UTF-8. -/
  | malformedText
  /-- A stream that broke off. -/
  | broken
  /-- A file name with a NUL in it. -/
  | nulInName
  | notFound
  | notDirectory
  | isDirectory
  | tooManyLinks
  | nameTooLong
  deriving DecidableEq, Inhabited, Repr

/-- The wording of a read error. -/
def ReadError.message : ReadError → String
  | .malformedCharacter => "template stream is not valid UTF-8"
  | .malformedText => "stream did not contain valid UTF-8"
  | .broken => "stream broke"
  | .nulInName => "file name contained an unexpected NUL byte"
  | .notFound => "No such file or directory (os error 2)"
  | .notDirectory => "Not a directory (os error 20)"
  | .isDirectory => "Is a directory (os error 21)"
  | .tooManyLinks => "Too many levels of symbolic links (os error 40)"
  | .nameTooLong => "File name too long (os error 36)"

/-- Bad registrations, look-ups and route declarations. -/
inductive ConfigurationError
  /-- Two declarations expand to one pattern. -/
  | duplicatePattern (typeName pattern : String)
  /-- A pattern is no regular expression. -/
  | invalidPattern (typeName pattern : String)
  /-- Nothing is registered under the identifier. -/
  | unknownIdentifier (kind identifier : String)
  /-- The empty text is no identifier. -/
  | emptyIdentifier (kind : String)
  /-- The descriptor has no constructor for these arguments. -/
  | missingConstructor (typeName : String) (signature : Signature)
  deriving DecidableEq, Inhabited, Repr

/-- The wording of a configuration error. -/
def ConfigurationError.message : ConfigurationError → String
  | .duplicatePattern typeName pattern =>
    "the builder `" ++ typeName ++ "` has registered the route pattern `" ++ pattern ++
      "` that has already been registered"
  | .invalidPattern typeName pattern =>
    "the route pattern `" ++ pattern ++ "` declared by `" ++ typeName ++ "` is invalid"
  | .unknownIdentifier kind identifier =>
    "no " ++ kind ++ " has been registered with the identifier `" ++ identifier ++ "`"
  | .emptyIdentifier kind => kind ++ " identifier can not be empty"
  | .missingConstructor typeName signature =>
    "`" ++ typeName ++ "` has no constructor matching " ++ signature.text

/-- The name of the cause of a configuration error. -/
def ConfigurationError.cause : ConfigurationError → String
  | .duplicatePattern .. => "DuplicatePattern"
  | .invalidPattern .. => "InvalidPattern"
  | .unknownIdentifier .. => "UnknownIdentifier"
  | .emptyIdentifier .. => "EmptyIdentifier"
  | .missingConstructor .. => "MissingConstructor"

/-- The four kinds of errors, for hosts that do not look at the cause. -/
inductive ErrorKind
  | configuration
  | templateNotFound
  | template
  | output
  deriving DecidableEq, Inhabited, Repr

/-- The name of a kind. -/
def ErrorKind.name : ErrorKind → String
  | .configuration => "Configuration"
  | .templateNotFound => "TemplateNotFound"
  | .template => "Template"
  | .output => "Output"

/-- **An error that ends the rendering of a page.** -/
inductive RenderError
  | configuration (error : ConfigurationError)
  /-- No template of the name lies under the root. -/
  | templateNotFound (name root : String)
  /-- A page was rendered before its builder chose a master template. -/
  | missingMasterTemplate (builder : String)
  /-- A template could not be read to its end. -/
  | templateRead (name : String) (error : ReadError)
  /-- The sink rejected a write. -/
  | output
  deriving DecidableEq, Inhabited, Repr

/-- The kind of an error. -/
def RenderError.kind : RenderError → ErrorKind
  | .configuration _ => .configuration
  | .templateNotFound .. => .templateNotFound
  | .missingMasterTemplate _ => .template
  | .templateRead .. => .template
  | .output => .output

/-- The wording of an error. -/
def RenderError.message : RenderError → String
  | .configuration error => error.message
  | .templateNotFound name root =>
    "the template `" ++ name ++ "` could not be found; the root path `" ++ root ++
      "` and all sub folders were searched"
  | .missingMasterTemplate builder =>
    "`" ++ builder ++ "` has no master template; assign a template file or template text"
  | .templateRead name error => "failed to read template `" ++ name ++ "`: " ++ error.message
  | .output => "failed to write rendered output"

/-- The name of the cause of an error. -/
def RenderError.cause : RenderError → String
  | .configuration error => error.cause
  | .templateNotFound .. => "TemplateNotFound"
  | .missingMasterTemplate _ => "MissingMasterTemplate"
  | .templateRead .. => "TemplateRead"
  | .output => "Output"

end Folio
