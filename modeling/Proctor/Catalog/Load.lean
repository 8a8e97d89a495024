import Proctor.Catalog.Validation
import Proctor.Host.Fault

/-!
# Loading a catalog

A catalog is read from text, or from the bytes of a file if they can be had and are text.
-/
namespace Proctor

/-- Why there is no catalog. -/
inductive CatalogFault where
  /-- The file could not be read. -/
  | unreadable (path : String) (fault : Fault)
  /-- The text is no document, or its tables are not those of a catalog. -/
  | malformed
  /-- The catalog fails a check. -/
  | defect (d : Defect)
  deriving DecidableEq, Repr

/-- The wording of a fault. What is wrong with a document is not told in detail. -/
def CatalogFault.message : CatalogFault → String
  | .unreadable path fault => "failed to read catalog " ++ path ++ ": " ++ fault.message
  | .malformed => "TOML parsing error"
  | .defect d => d.message

namespace Catalog

/-- The catalog of a text. -/
def ofText (text : String) : Except CatalogFault Catalog :=
  match Draft.Catalog.ofText? text with
  | none => .error .malformed
  | some draft => draft.validate.mapError .defect

/-- The catalog of a file that was read. -/
def load (path : String) (read : Except Fault (List UInt8)) : Except CatalogFault Catalog :=
  match read with
  | .error fault => .error (.unreadable path fault)
  | .ok bytes =>
    match Utf8.decodeStrict? bytes with
    | none => .error (.unreadable path .notText)
    | some chars => ofText (String.ofList chars)

end Catalog
end Proctor
