import Mathlib.Logic.Basic

namespace ActorWeb

abbrev LoggedProcess (Error Event α : Type) := ExceptT Error (StateM (List Event)) α

namespace LoggedProcess

variable {Error Event α β : Type}

def emit (event : Event) : LoggedProcess Error Event Unit := modify fun log => log ++ [event]

def call (result : Except Error α) : LoggedProcess Error Event α := ExceptT.mk (pure result)

def Runs (p : LoggedProcess Error Event α) (result : Except Error α) (events : List Event) : Prop :=
  ∀ log : List Event, p.run.run log = (result, log ++ events)

def events (p : LoggedProcess Error Event α) : List Event := (p.run.run []).2

theorem Runs.events_eq {p : LoggedProcess Error Event α} {result : Except Error α}
    {es : List Event} (h : Runs p result es) : events p = es := by
  rw [events, h []]
  rfl

theorem runs_pure (a : α) : Runs (pure a : LoggedProcess Error Event α) (.ok a) [] := by
  intro log
  rw [List.append_nil]
  rfl

theorem runs_throw (error : Error) :
    Runs (throw error : LoggedProcess Error Event α) (.error error) [] := by
  intro log
  rw [List.append_nil]
  rfl

theorem runs_call (result : Except Error α) :
    Runs (call result : LoggedProcess Error Event α) result [] := by
  intro log
  rw [List.append_nil]
  rfl

theorem runs_emit (event : Event) :
    Runs (emit event : LoggedProcess Error Event Unit) (.ok ()) [event] := fun _ => rfl

section Bind

variable {p : LoggedProcess Error Event α} {f : α → LoggedProcess Error Event β}
variable {es ds : List Event}

theorem run_bind (p : LoggedProcess Error Event α) (f : α → LoggedProcess Error Event β)
    (log : List Event) : (p >>= f).run.run log =
      match p.run.run log with
      | (.ok a, middle) => (f a).run.run middle
      | (.error error, middle) => (.error error, middle) := by
  simp only [ExceptT.run_bind, StateT.run_bind]
  obtain ⟨result, middle⟩ := p.run.run log
  cases result <;> rfl

variable {result : Except Error β}

theorem Runs.bind {a : α} (hp : Runs p (.ok a) es)
    (hf : Runs (f a) result ds) : Runs (p >>= f) result (es ++ ds) := by
  intro log
  rw [run_bind, hp log]
  simp only [hf (log ++ es), List.append_assoc]

theorem Runs.bind_error {error : Error} (hp : Runs p (.error error) es) :
    Runs (p >>= f) (.error error) es := by
  intro log
  rw [run_bind, hp log]

theorem Runs.emit_bind {event : Event} {g : Unit → LoggedProcess Error Event β}
    (hg : Runs (g ()) result ds) : Runs (emit event >>= g) result (event :: ds) :=
  (runs_emit event).bind hg

theorem Runs.call_bind {a : α} (hf : Runs (f a) result ds) : Runs (call (.ok a) >>= f) result ds :=
  (runs_call (.ok a)).bind hf

theorem Runs.bind_pure {a : α} {g : α → β} (hp : Runs p (.ok a) es) :
    Runs (p >>= fun a => pure (g a)) (.ok (g a)) es := by
  have h := hp.bind (f := fun a => pure (g a)) (runs_pure (g a))
  rwa [List.append_nil] at h

end Bind

section Catch

variable {p : LoggedProcess Error Event α} {handler : Error → LoggedProcess Error Event α}
variable {es ds : List Event}

theorem run_tryCatch (p : LoggedProcess Error Event α)
    (handler : Error → LoggedProcess Error Event α) (log : List Event) :
    (tryCatch p handler).run.run log =
      match p.run.run log with
      | (.ok a, middle) => (.ok a, middle)
      | (.error error, middle) => (handler error).run.run middle := by
  have hrun : (tryCatch p handler).run.run log =
      match (p.run.run log).1 with
      | .ok a => (.ok a, (p.run.run log).2)
      | .error error => (handler error).run.run (p.run.run log).2 := by
    change (match (p.run.run log).1 with
      | .ok a => (pure (.ok a) : StateM (List Event) (Except Error α))
      | .error error => (handler error).run) (p.run.run log).2 = _
    cases (p.run.run log).1 <;> rfl
  rw [hrun]
  obtain ⟨result, middle⟩ := p.run.run log
  cases result <;> rfl

theorem Runs.try_ok {a : α} (hp : Runs p (.ok a) es) : Runs (tryCatch p handler) (.ok a) es := by
  intro log
  rw [run_tryCatch, hp log]

theorem Runs.try_error {error : Error} {result : Except Error α} (hp : Runs p (.error error) es)
    (hh : Runs (handler error) result ds) : Runs (tryCatch p handler) result (es ++ ds) := by
  intro log
  rw [run_tryCatch, hp log]
  simp only [hh (log ++ es), List.append_assoc]

end Catch

end LoggedProcess

end ActorWeb
