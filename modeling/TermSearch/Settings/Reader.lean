import TermSearch.Settings.Refusal

/-! Reading settings: single values, and structures that are given as a record or as a list. -/

namespace TermSearch.Setting

def asBoolean : Setting → Except Refusal Bool
  | .boolean b => .ok b
  | v => .error (.wrongType v.found .boolean)

def asText : Setting → Except Refusal String
  | .text s => .ok s
  | v => .error (.wrongType v.found .text)

def asTexts : Setting → Except Refusal (List String)
  | .list items => items.mapM asText
  | v => .error (.wrongType v.found .list)

def optional {α : Type} (read : Setting → Except Refusal α) : Setting → Except Refusal (Option α)
  | .null => .ok none
  | v => some <$> read v

/-- The shape of a structure of settings: how a key names a field (or none, or is refused), the
order of the fields in a list, and how a field takes its value. -/
structure Shape (σ φ : Type) where
  expected : Expected
  order : List φ
  field : String → Except Refusal (Option φ)
  put : σ → φ → Setting → Except Refusal σ

variable {σ φ : Type}

def Shape.putKey (shape : Shape σ φ) (s : σ) (entry : String × Setting) : Except Refusal σ := do
  match ← shape.field entry.1 with
  | some f => shape.put s f entry.2
  | none => .ok s

def readAs (shape : Shape σ φ) (start : σ) : Setting → Except Refusal σ
  | .record fields => (sortedFields fields).foldlM shape.putKey start
  | .list items => do
    let s ← (shape.order.zip items).foldlM (fun s (f, v) => shape.put s f v) start
    if items.length ≤ shape.order.length then .ok s else .error (.tooLong items.length)
  | v => .error (.wrongType v.found shape.expected)

end TermSearch.Setting
