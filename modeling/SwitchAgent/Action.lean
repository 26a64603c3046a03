import SwitchAgent.Log

/-!
# Actions

An action turns one state into the next, gives a value and writes log records. Records are
only ever added, so the log of two actions is that of the first and then that of the second.
-/

namespace SwitchAgent

structure Outcome (σ α : Type) where
  value : α
  state : σ
  log : Log := []
  deriving Repr

def Action (σ α : Type) :=
  σ → Outcome σ α

namespace Action

variable {σ τ α β : Type}

protected def pure (a : α) : Action σ α :=
  fun s => ⟨a, s, []⟩

protected def bind (first : Action σ α) (next : α → Action σ β) : Action σ β :=
  fun s =>
    let a := first s
    let b := next a.value a.state
    ⟨b.value, b.state, a.log ++ b.log⟩

instance : Monad (Action σ) where
  pure := Action.pure
  bind := Action.bind

def get : Action σ σ :=
  fun s => ⟨s, s, []⟩

def set (s : σ) : Action σ Unit :=
  fun _ => ⟨(), s, []⟩

def modify (f : σ → σ) : Action σ Unit :=
  fun s => ⟨(), f s, []⟩

def log (level : Log.Level) (text : String) : Action σ Unit :=
  fun s => ⟨(), s, [⟨level, text⟩]⟩

def error (text : String) : Action σ Unit :=
  log .error text

def warn (text : String) : Action σ Unit :=
  log .warn text

def info (text : String) : Action σ Unit :=
  log .info text

def debug (text : String) : Action σ Unit :=
  log .debug text

/-- Act on a state that is kept elsewhere. Only the log shows here. -/
def aside (action : Action τ α) (t : τ) : Action σ (τ × α) :=
  fun s =>
    let o := action t
    ⟨(o.state, o.value), s, o.log⟩

/-- Act on a part of the state. -/
def within (view : σ → τ) (put : σ → τ → σ) (action : Action τ α) : Action σ α :=
  fun s =>
    let o := action (view s)
    ⟨o.value, put s o.state, o.log⟩

@[simp] theorem pure_apply (a : α) (s : σ) : (pure a : Action σ α) s = ⟨a, s, []⟩ := rfl

@[simp] theorem bind_apply (first : Action σ α) (next : α → Action σ β) (s : σ) :
    (first >>= next) s =
      ⟨(next (first s).value (first s).state).value,
        (next (first s).value (first s).state).state,
        (first s).log ++ (next (first s).value (first s).state).log⟩ := rfl

@[simp] theorem map_apply (f : α → β) (action : Action σ α) (s : σ) :
    (f <$> action) s = ⟨f (action s).value, (action s).state, (action s).log⟩ := by
  simp [Functor.map, Action.bind, Action.pure]

@[simp] theorem get_apply (s : σ) : (get : Action σ σ) s = ⟨s, s, []⟩ := rfl

@[simp] theorem set_apply (s t : σ) : set s t = ⟨(), s, []⟩ := rfl

@[simp] theorem modify_apply (f : σ → σ) (s : σ) : modify f s = ⟨(), f s, []⟩ := rfl

@[simp] theorem log_apply (level : Log.Level) (text : String) (s : σ) :
    log level text s = ⟨(), s, [⟨level, text⟩]⟩ := rfl

@[simp] theorem within_apply (view : σ → τ) (put : σ → τ → σ) (action : Action τ α) (s : σ) :
    action.within view put s =
      ⟨(action (view s)).value, put s (action (view s)).state, (action (view s)).log⟩ := rfl

@[simp] theorem aside_apply (action : Action τ α) (t : τ) (s : σ) :
    action.aside t s = ⟨((action t).state, (action t).value), s, (action t).log⟩ := rfl

instance : LawfulMonad (Action σ) :=
  LawfulMonad.mk' (Action σ)
    (by intro α x; funext s; simp [Functor.map, Action.bind, Action.pure])
    (by intro α β a f; funext s; simp)
    (by intro α β γ x f g; funext s; simp [List.append_assoc])

end Action

end SwitchAgent
