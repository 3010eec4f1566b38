import TermSearch.Settings.Options

/-! The settings that hold for every search unless its caller says otherwise. -/

namespace TermSearch

inductive EngineKind where
  | ilike
deriving DecidableEq

inductive ConfigKey where
  | option (k : OptionKey)
  | engine
deriving DecidableEq

def ConfigKey.ofKey? (s : String) : Option ConfigKey :=
  if s = "engine" then some .engine else (OptionKey.ofKey? s).map .option

structure Config where
  normalize : Bool := true
  orderByBestMatch : Bool := true
  wordBasedMatching : Bool := true
  ignoreSuffixes : List String :=
    ["state", "province", "region", "territory", "city", "town", "municipality"]
  engine : EngineKind := .ilike
deriving DecidableEq

namespace Config

/-- An engine is named by a text, or by a record that has its name as the only key and null as
the value. -/
def readEngine : Setting → Except Refusal EngineKind
  | .text "ilike" => .ok .ilike
  | .text s => .error (.unknownEngine s)
  | .record fields =>
    match Setting.sortedFields fields with
    | [("ilike", .null)] => .ok .ilike
    | [("ilike", v)] => .error (.wrongType v.found .unit)
    | [(s, _)] => .error (.unknownEngine s)
    | _ => .error .severalEngines
  | v => .error (.wrongType v.found .engine)

def put (c : Config) (k : ConfigKey) (v : Setting) : Except Refusal Config :=
  match k with
  | .option .normalize => do return { c with normalize := ← v.asBoolean }
  | .option .wordBasedMatching => do return { c with wordBasedMatching := ← v.asBoolean }
  | .option .orderByBestMatch => do return { c with orderByBestMatch := ← v.asBoolean }
  | .option .ignoreSuffixes => do return { c with ignoreSuffixes := ← v.asTexts }
  | .engine => do return { c with engine := ← readEngine v }

def shape : Setting.Shape Config ConfigKey where
  expected := .config
  order := [.option .normalize, .option .orderByBestMatch, .option .wordBasedMatching,
    .option .ignoreSuffixes, .engine]
  field s := .ok (ConfigKey.ofKey? s)
  put := put

def read (v : Setting) : Except Refusal Config :=
  v.readAs shape {}

end Config

end TermSearch
