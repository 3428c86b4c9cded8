import Gateway.Config.Store
import Gateway.Yaml.Writer

/-!
# Configuration documents

A configuration is written down as a YAML document. Reading it and writing it go through the table
of settings.
-/

namespace Gateway

namespace Kind

/-- The value that a node of a document means. -/
def read? (kind : Kind) (d : Yaml.Document) (node : Yaml.Node) : Option PlainValue :=
  match kind with
  | .number max => (d.number? max node).map .number
  | .flag => (d.truth? node).map .flag
  | .text | .path => (d.text? node).map (.text ∘ String.ofList)
  | .texts | .paths => do
    let items ← (← d.items? node).mapM d.text?
    some (.texts (items.map String.ofList))
  | .choice names => (d.choice? names node).map .text

/-- How a value is written. -/
def tree (kind : Kind) : PlainValue → Yaml.Tree
  | .number n => .word (toString n)
  | .flag b => .word (toString b)
  | .text s => match kind with
    | .choice _ => .word s
    | _ => .text s
  | .texts items => .list (items.map .text)

end Kind

namespace Config

/-! ## Reading -/

/-- The entries of a section, which may be left out. -/
def sectionEntries? (d : Yaml.Document) (entries : List (List Char × Yaml.Node)) :
    List String → Option (List (List Char × Yaml.Node))
  | [] => some entries
  | name :: rest => do
    match ← Yaml.Document.lookup? entries name with
    | none => some []
    | some node => sectionEntries? d (← d.entries? node) rest

/-- Takes one setting from a document. -/
def take? (d : Yaml.Document) (root : List (List Char × Yaml.Node)) (c : Config) (s : Setting) :
    Option Config := do
  let entries ← sectionEntries? d root s.sections
  match ← Yaml.Document.lookup? entries s.name with
  | none => some c
  | some node => (s.kind.read? d node).map fun value => s.put value c

/-- The configuration that a text describes: the version must be given, and what is left out keeps
its built-in value. -/
def parse? (text : List Char) : Option Config := do
  let d ← Yaml.Document.read? text
  let root ← d.entries? d.root
  if (← Yaml.Document.lookup? root "version").isNone then none
  else Setting.all.foldlM (take? d root) builtIn

/-! ## Writing -/

/-- Those settings as entries that lie in so many sections. -/
def entriesAt (c : Config) (depth : Nat) (settings : List Setting) : List (String × Yaml.Tree) :=
  (settings.filter (·.sections.length = depth)).map fun s => (s.name, s.kind.tree (s.get c))

/-- The configuration as a tree. -/
def tree (c : Config) : List (String × Yaml.Tree) :=
  c.entriesAt 0 [Setting.version] ++
  [("leds", .map (c.entriesAt 1 Setting.leds)),
   ("battery", .map (c.entriesAt 1 Setting.battery
      ++ [("charge", .map (c.entriesAt 2 Setting.battery))])),
   ("modem", .map (c.entriesAt 1 Setting.modem)),
   ("wifi", .map (c.entriesAt 1 Setting.wifi)),
   ("power_key", .map (c.entriesAt 1 Setting.powerKey)),
   ("dbus", .map (c.entriesAt 1 Setting.control))]

/-- The configuration as the text of a document. -/
def text (c : Config) : String := Yaml.write c.tree

/-- The configuration as the text of a document in one line. -/
def flowText (c : Config) : String := (Yaml.Tree.map c.tree).flowText

/-- Configurations as documents. -/
instance yaml : Format where
  parse? := parse?
  text := text
  parse?_switchValue charge := by cases charge <;> decide +kernel

end Config

end Gateway
