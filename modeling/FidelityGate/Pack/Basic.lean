import FidelityGate.Value

/-!
# Packs

A pack is a snapshot of an agent's working state: its instructions, the constraints it is bound by,
the dialogue, the evidence it has gathered, the todos that are pending, and what it remembers.
Constraints are identified by their text, todos by their id, and evidence by its span.  The numbers
in a pack are kept as the kind of number that they were given as.
-/

namespace FidelityGate

/-- How long a memory is meant to last. -/
inductive Scope where
  | working
  | episodic
  | longTerm
  deriving DecidableEq

namespace Scope

def all : List Scope :=
  [.working, .episodic, .longTerm]

def name : Scope → String
  | .working => "working"
  | .episodic => "episodic"
  | .longTerm => "long_term"

end Scope

/-- What a memory records. -/
inductive Topic where
  | fact
  | constraint
  | decision
  | todo
  | artifact
  deriving DecidableEq

namespace Topic

def all : List Topic :=
  [.fact, .constraint, .decision, .todo, .artifact]

def name : Topic → String
  | .fact => "fact"
  | .constraint => "constraint"
  | .decision => "decision"
  | .todo => "todo"
  | .artifact => "artifact"

end Topic

structure Memory where
  id : String := ""
  thread : String := ""
  scope : Scope := .working
  topic : Topic := .fact
  content : String := ""
  sources : String := ""
  importance : Number := .zero
  freshness : Number := .zero
  confidence : Number := .zero
  createdAt : Number := .int 0
  updatedAt : Number := .int 0
  deriving DecidableEq

/-- One exchange between the user and the assistant. -/
structure Turn where
  id : String := ""
  run : String := ""
  userMessage : String := ""
  assistantMessage : String := ""
  userText : String := ""
  assistantText : String := ""
  createdAt : Number := .int 0
  deriving DecidableEq

structure Evidence where
  span : String := ""
  run : String := ""
  kind : String := ""
  name : String := ""
  status : String := ""
  summary : String := ""
  payload : String := ""
  startedAt : Number := .int 0
  endedAt : Number := .int 0
  deriving DecidableEq

structure Attachment where
  name : String := ""
  mediaType : String := ""
  url : String := ""
  mode : String := ""
  deriving DecidableEq

/-- Token counts by section, in the order in which the sections were first named. -/
structure Usage where
  entries : List (String × Number) := []
  distinct : (entries.map (·.1)).Nodup := by simp
  deriving DecidableEq

namespace Usage

def empty : Usage := {}

/-- The entries with the count of a section replaced, or added at the end. -/
def putEntry (label : String) (count : Number) :
    List (String × Number) → List (String × Number)
  | [] => [(label, count)]
  | entry :: rest =>
    if entry.1 = label then (label, count) :: rest
    else entry :: putEntry label count rest

theorem mem_keys_putEntry {key label : String} {count : Number}
    {entries : List (String × Number)} :
    key ∈ (putEntry label count entries).map (·.1) ↔
      key = label ∨ key ∈ entries.map (·.1) := by
  induction entries with
  | nil => simp [putEntry]
  | cons entry rest ih =>
    by_cases same : entry.1 = label
    · simp [putEntry, same]
    · simp only [putEntry, same, if_false, List.map_cons, List.mem_cons, ih]
      exact or_left_comm

theorem nodup_putEntry {label : String} {count : Number} {entries : List (String × Number)}
    (distinct : (entries.map (·.1)).Nodup) :
    ((putEntry label count entries).map (·.1)).Nodup := by
  induction entries with
  | nil => simp [putEntry]
  | cons entry rest ih =>
    by_cases same : entry.1 = label
    · simpa [putEntry, same] using distinct
    · simp only [List.map_cons, List.nodup_cons] at distinct
      simp only [putEntry, same, if_false, List.map_cons, List.nodup_cons, mem_keys_putEntry,
        not_or]
      exact ⟨⟨not_false, distinct.1⟩, ih distinct.2⟩

def put (usage : Usage) (label : String) (count : Number) : Usage :=
  ⟨putEntry label count usage.entries, nodup_putEntry usage.distinct⟩

def ofList (entries : List (String × Number)) : Usage :=
  entries.foldl (fun usage entry ↦ usage.put entry.1 entry.2) empty

/-- Equal counts for the same sections, in whatever order. -/
def eqv (a b : Usage) : Bool :=
  a.entries.length = b.entries.length &&
    a.entries.all fun entry ↦ (b.entries.lookup entry.1).any entry.2.eqv

end Usage

/-- A pack.  Its saving may be anything that a verdict claims it to be. -/
structure Pack where
  thread : String := ""
  run : String := ""
  contract : String := ""
  objective : String := ""
  constraints : List String := []
  dialogue : List Turn := []
  evidence : List Evidence := []
  todos : List Memory := []
  memories : List Memory := []
  attachments : List Attachment := []
  snapshot : String := ""
  inputTokens : Number := .int 0
  saving : Value := .double .zero
  quality : Bool := false
  usage : Usage := .empty

/-! The names of packs and of their parts in messages. -/

def Memory.typeName : String := "MemoryItem"

def Turn.typeName : String := "DialogueTurn"

def Evidence.typeName : String := "ExecutionEvidence"

def Attachment.typeName : String := "AttachmentManifest"

def Pack.typeName : String := "ContextPack"

end FidelityGate
