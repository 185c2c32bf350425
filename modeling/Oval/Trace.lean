import Oval.Event
import Oval.Metric
import Oval.Report

/-! # Traced values

A value together with the effects of computing it, in order: events, increments of metrics, the
questions put to the inventory and the findings that were delivered.
-/
namespace Oval

inductive Query
  | packages (format : PackageFormat) (name : String)
  | file (path : String)
  deriving DecidableEq, Repr

def Query.text : Query → String
  | packages format name => format.text ++ ":" ++ name
  | file path => "file:" ++ path

inductive Effect
  | event (e : Event)
  | count (m : Metric)
  | query (q : Query)
  | deliver (f : Finding)
  /-- The definition at a position was asked for while its own evaluation was under way. -/
  | blocked (position : Nat)
  deriving DecidableEq, Repr

structure Traced (α : Type) where
  value : α
  effects : List Effect := []

namespace Traced

variable {α β γ : Type}

def bind (x : Traced α) (f : α → Traced β) : Traced β :=
  let y := f x.value
  ⟨y.value, x.effects ++ y.effects⟩

instance : Monad Traced where
  pure a := ⟨a, []⟩
  bind := bind

@[ext] theorem ext {x y : Traced α} (hv : x.value = y.value) (he : x.effects = y.effects) :
    x = y := by
  cases x
  cases y
  simp_all

@[simp] theorem value_pure (a : α) : (pure a : Traced α).value = a := rfl

@[simp] theorem effects_pure (a : α) : (pure a : Traced α).effects = [] := rfl

@[simp] theorem value_bind (x : Traced α) (f : α → Traced β) :
    (x >>= f).value = (f x.value).value := rfl

@[simp] theorem effects_bind (x : Traced α) (f : α → Traced β) :
    (x >>= f).effects = x.effects ++ (f x.value).effects := rfl

@[simp] theorem value_map (f : α → β) (x : Traced α) : (f <$> x).value = f x.value := rfl

instance : LawfulMonad Traced := LawfulMonad.mk' _
  (fun _ => Traced.ext rfl (List.append_nil _))
  (fun _ _ => Traced.ext rfl rfl)
  (fun _ _ _ => Traced.ext rfl (List.append_assoc ..))

def emit (e : Effect) : Traced Unit := ⟨(), [e]⟩

def report (e : Event) : Traced Unit := emit (.event e)

def count (m : Metric) : Traced Unit := emit (.count m)

end Traced

namespace Effect

def event? : Effect → Option Event
  | event e => some e
  | _ => none

def metric? : Effect → Option Metric
  | count m => some m
  | _ => none

def query? : Effect → Option Query
  | query q => some q
  | _ => none

def delivery? : Effect → Option Finding
  | deliver f => some f
  | _ => none

end Effect

def events (es : List Effect) : List Event := es.filterMap Effect.event?

def metrics (es : List Effect) : List Metric := es.filterMap Effect.metric?

def queries (es : List Effect) : List Query := es.filterMap Effect.query?

def deliveries (es : List Effect) : List Finding := es.filterMap Effect.delivery?

@[simp] theorem events_append (a b : List Effect) : events (a ++ b) = events a ++ events b :=
  List.filterMap_append

@[simp] theorem metrics_append (a b : List Effect) : metrics (a ++ b) = metrics a ++ metrics b :=
  List.filterMap_append

@[simp] theorem queries_append (a b : List Effect) : queries (a ++ b) = queries a ++ queries b :=
  List.filterMap_append

@[simp] theorem deliveries_append (a b : List Effect) :
    deliveries (a ++ b) = deliveries a ++ deliveries b :=
  List.filterMap_append

/-- The events of a level or of a more severe one. -/
def eventsUpTo (level : Level) (es : List Effect) : List Event :=
  (events es).filter fun e => e.level.rank ≤ level.rank

end Oval
