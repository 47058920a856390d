import ErrorDerive.Loading.Mapping
import ErrorDerive.Schema.Records

/-!
# Declaration files

A declaration file holds one type, or a list of types under the key `types`. Some parts have a
short form: a variant may be its name alone, and annotations may be one group instead of a list.

* `TypeDeclaration.ofEntries` reads one declaration after writing its short forms out;
* `Workplace.loadDeclarations` reads all declarations of a file.
-/

namespace ErrorDerive

/-- Entries without the one under a text key. -/
def removeEntry (name : String) (entries : List (Value × Value)) : List (Value × Value) :=
  entries.filter fun entry => !Value.sameKey (.text name) entry.1

/-- The entries of a variant with its annotations as a list of groups, or without them. -/
def writeOutAnnotations (entries : List (Value × Value)) : List (Value × Value) :=
  match ((Value.lookup? "annotations" entries).getD .null).opened with
  | .null => removeEntry "annotations" entries
  | .mapping group => Value.put (.text "annotations") (.list [.mapping group]) entries
  | _ => entries

/-- A variant with its short forms written out. -/
def writeOutVariant (variant : Value) : Value :=
  match variant.opened with
  | .text name => .mapping [(.text "name", .text name)]
  | .mapping entries => .mapping (writeOutAnnotations entries)
  | other => other

/-- The fault of variants that are no list. It shows the name of the type, which must be a value
that can be shown. -/
def variantsFault (entries : List (Value × Value)) (variants : Value) : LoadFault :=
  let typeName := (Value.lookup? "name" entries).getD (.text "?")
  match typeName.unshowable? with
  | some cause => .brokenDown cause
  | none => .reported (.variantsNotAList typeName.inserted variants.kind)

/-- The variants of a declaration, where nothing hollow counts as any. -/
def declaredVariants (entries : List (Value × Value)) : Except LoadFault (List Value) :=
  let variants := ((Value.lookup? "variants" entries).getD .null).opened
  if variants.isHollow then .ok []
  else match variants with
    | .list items => .ok items
    | other => .error (variantsFault entries other)

/-- The declaration of one type. -/
def TypeDeclaration.ofEntries (entries : List (Value × Value)) :
    Except LoadFault TypeDeclaration := do
  let variants ← declaredVariants entries
  let written := Value.put (.text "variants") (.list (variants.map writeOutVariant)) entries
  match (TypeDeclaration.read (.mapping written)).toExcept "TypeDeclaration" with
  | .ok declaration => return declaration
  | .error rejection => throw (.reported (.invalidDeclaration rejection))

/-- The values in the entries of a file that declare a type each. -/
def declaringValues (path : Path) (entries : List (Value × Value)) :
    Except ConfigFault (List Value) :=
  match (Value.lookup? "types" entries).map Value.opened with
  | some (.list []) => .error (.noDeclarations path.text)
  | some (.list types) => .ok types
  | some _ => .error (.typesNotAList path.text)
  | none => if entries.isEmpty then .error (.noDeclarations path.text) else .ok [.mapping entries]

/-- The declaration of the type that a value of a file declares. -/
def TypeDeclaration.ofValue (path : Path) (value : Value) : Except LoadFault TypeDeclaration :=
  match value.opened with
  | .mapping entries => ofEntries entries
  | other => .error (.reported (.typeNotAMapping path.text other.kind))

/-- The declarations in the entries of a file, in order. -/
def declarationsOfEntries (path : Path) (entries : List (Value × Value)) :
    Except LoadFault (List TypeDeclaration) := do
  ((← (declaringValues path entries).mapError LoadFault.reported)).mapM
    (TypeDeclaration.ofValue path)

/-- The declarations in a file. -/
def Workplace.loadDeclarations (workplace : Workplace) (path : Path) :
    Except LoadFault (List TypeDeclaration) := do
  declarationsOfEntries path (← workplace.readMapping path)

end ErrorDerive
