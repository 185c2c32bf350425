/-! # Diagnostics and the contexts that collect them

A context keeps every diagnostic recorded during one evaluation.  The diagnostics of a nested
definition are merged: those of a definition that an earlier merge brought along are left out, so
shared definitions are reported once.
-/
namespace Oval

inductive Severity
  | warning
  | error
  deriving DecidableEq, Repr

namespace Severity

def all : List Severity := [warning, error]

def text : Severity → String
  | warning => "warning"
  | error => "error"

end Severity

structure Diagnostic where
  severity : Severity
  definitionId : String
  message : String
  deriving DecidableEq, Repr

namespace Diagnostic

def warning (definitionId message : String) : Diagnostic := ⟨.warning, definitionId, message⟩

def error (definitionId message : String) : Diagnostic := ⟨.error, definitionId, message⟩

def text (d : Diagnostic) : String :=
  "[" ++ d.severity.text ++ "] " ++ d.definitionId ++ ": " ++ d.message

def count (severity : Severity) (ds : List Diagnostic) : Nat :=
  (ds.filter (·.severity == severity)).length

end Diagnostic

/-- Diagnostics in the order of recording, and the definitions that merges have covered. -/
structure Context where
  recorded : List Diagnostic := []
  merged : List String := []
  deriving DecidableEq, Repr

namespace Context

def empty : Context := {}

def record (c : Context) (d : Diagnostic) : Context := { c with recorded := c.recorded ++ [d] }

/-- The members of `ds` that a merge records: those of definitions not merged before. -/
def fresh (c : Context) (ds : List Diagnostic) : List Diagnostic :=
  ds.filter fun d => !c.merged.contains d.definitionId

/-- Records the fresh members in order and then marks all definitions in `ds` as merged. -/
def merge (c : Context) (ds : List Diagnostic) : Context where
  recorded := c.recorded ++ c.fresh ds
  merged := c.merged ++ ds.map Diagnostic.definitionId

@[simp] theorem recorded_record (c : Context) (d : Diagnostic) :
    (c.record d).recorded = c.recorded ++ [d] := rfl

@[simp] theorem merged_record (c : Context) (d : Diagnostic) : (c.record d).merged = c.merged := rfl

@[simp] theorem recorded_merge (c : Context) (ds : List Diagnostic) :
    (c.merge ds).recorded = c.recorded ++ c.fresh ds := rfl

@[simp] theorem merged_merge (c : Context) (ds : List Diagnostic) :
    (c.merge ds).merged = c.merged ++ ds.map Diagnostic.definitionId := rfl

/-- The warning that stands for diagnostics beyond the limit, under the definition of the last
diagnostic that was kept. -/
def summary (limit dropped : Nat) (kept : List Diagnostic) : Diagnostic :=
  .warning ((kept.getLast?.map Diagnostic.definitionId).getD "")
    (toString dropped ++ " further diagnostics dropped (limit " ++ toString limit ++ ")")

/-- Takes diagnostics out of the queue, in order.  They are kept up to the limit and only counted
beyond it. -/
def drain (limit : Nat) : (queue kept : List Diagnostic) → (dropped : Nat) → List Diagnostic × Nat
  | [], kept, dropped => (kept, dropped)
  | d :: r, kept, dropped =>
    if kept.length < limit then drain limit r (kept ++ [d]) dropped
    else drain limit r kept (dropped + 1)

/-- What a context hands out at its end: what is kept, and a summary if anything is dropped. -/
def finish (limit : Nat) (c : Context) : List Diagnostic :=
  let (kept, dropped) := drain limit c.recorded [] 0
  if 0 < dropped then kept ++ [summary limit dropped kept] else kept

end Context
end Oval
