import SwitchAgent.Control.Script
import SwitchAgent.Proofs.Agent.Features
import SwitchAgent.Proofs.Control.Rounds
import SwitchAgent.Telemetry.Publisher

/-!
# One run after the other

A run goes on where the one before it stopped reading. On a script the runs together dispatch its
messages in order and none of them twice; they skip none if the controllers do not read the stream
themselves, and the agent's do not.
-/

namespace SwitchAgent.Control

open SwitchAgent.Action Device Pipeline

/-- A relation between what is left of messages and the messages. -/
structure Remainder (R : List Message → List Message → Prop) : Prop where
  refl (messages : List Message) : R messages messages
  trans {left middle all : List Message} : R left middle → R middle all → R left all
  cons (message : Message) {left all : List Message} :
    R left all → R (message :: left) (message :: all)

namespace Remainder

variable {R : List Message → List Message → Prop}

theorem whole : Remainder Eq where
  refl _ := rfl
  trans := Eq.trans
  cons message _ _ same := congrArg (message :: ·) same

theorem sublist : Remainder List.Sublist where
  refl := List.Sublist.refl
  trans := List.Sublist.trans
  cons message := List.Sublist.cons_cons message

theorem append (remainder : Remainder R) (first : List Message) {left all : List Message}
    (h : R left all) : R (first ++ left) (first ++ all) := by
  induction first with
  | nil => exact h
  | cons message first ih => exact remainder.cons message ih

end Remainder

namespace Script

theorem attempt_messages (call : Call) (script : Script) :
    (attempt call script).state.messages = script.messages := by
  cases result : script.policy (script.attempts.map Attempt.call) call <;> simp [attempt, result]

/-- A reading takes the message that it hands out off the script, and nothing else. -/
theorem read_messages (script : Script) :
    match (Channel.read script).value with
    | .ok (some message) => script.messages = message :: (Channel.read script).state.messages
    | _ => (Channel.read script).state.messages = script.messages := by
  cases result : script.policy (script.attempts.map Attempt.call) .read with
  | some fault => simp [Channel.read, attempt, result]
  | none => cases left : script.messages <;> simp [Channel.read, attempt, nextMessage, result, left]

end Script

/-- How controllers of a type treat the messages that are left of a script. -/
structure Treats (τ : Type) [Controller τ Script] (R : List Message → List Message → Prop) :
    Prop where
  arbitrate (controller : τ) (update : Arbitration) (script : Script) :
    R (Controller.arbitrate controller update script).state.messages script.messages
  handle (controller : τ) (event : Event) (script : Script) :
    R (Controller.handle controller event script).state.messages script.messages

theorem Treats.mono {τ : Type} [Controller τ Script] {R S : List Message → List Message → Prop}
    (treats : Treats τ R) (weaker : ∀ left all, R left all → S left all) : Treats τ S where
  arbitrate controller update script := weaker _ _ (treats.arbitrate controller update script)
  handle controller event script := weaker _ _ (treats.handle controller event script)

namespace Plane

/-- The messages that runs one after the other dispatch, each run under a limit of its own. -/
def heardAll {σ C : Type} [Channel C] [Controller σ C] : List Nat → Plane σ C → List Message
  | [], _ => []
  | limit :: limits, plane => heard limit plane ++ heardAll limits (run limit plane).state

section Script

variable {τ : Type} [Controller τ Script] {R : List Message → List Message → Prop}

theorem dispatch_messages (remainder : Remainder R) (treats : Treats τ R) (message : Message)
    (plane : Plane τ Script) :
    R (dispatch message plane).state.channel.messages plane.channel.messages := by
  cases message with
  | arbitration update =>
    obtain ⟨called, spared, informed⟩ :=
      exists_informed update plane.stack (afterInstall plane update)
    have start : (afterInstall plane update).messages = plane.channel.messages := by
      rw [afterInstall]
      split
      · exact Script.attempt_messages _ _
      · rfl
    have kept (controller : τ) (script : Script)
        (before : R script.messages (afterInstall plane update).messages) :
        R (informing update controller script).state.messages
          (afterInstall plane update).messages :=
      remainder.trans (treats.arbitrate controller update script) before
    have left := after_invariant kept called (remainder.refl _)
    rw [(dispatch_arbitration update plane).2]
    dsimp only
    rw [informed.channel, ← start]
    exact left
  | event event =>
    obtain ⟨called, spared, offered⟩ := exists_offered event plane.stack plane.channel
    have kept (controller : τ) (script : Script)
        (before : R script.messages plane.channel.messages) :
        R (handling event controller script).state.messages plane.channel.messages :=
      remainder.trans (treats.handle controller event script) before
    have left := after_invariant kept called (remainder.refl _)
    rw [(dispatch_event event plane).2]
    dsimp only
    rw [offered.channel]
    exact left
  | unknown => exact remainder.refl _

/-- What is dispatched and what is left are both of the script. -/
theorem follow_messages (remainder : Remainder R) (treats : Treats τ R) (limit : Nat)
    (plane : Plane τ Script) :
    R (dispatched limit plane ++ (follow limit plane).state.channel.messages)
      plane.channel.messages := by
  induction limit generalizing plane with
  | zero => exact remainder.refl _
  | succ limit ih =>
    have read := Script.read_messages plane.channel
    cases result : (Channel.read plane.channel).value with
    | error fault =>
      obtain ⟨heard, -, state⟩ := follow_failed result limit
      rw [result] at read
      rw [heard, state]
      exact read ▸ remainder.refl _
    | ok message =>
      cases message with
      | none =>
        obtain ⟨heard, -, state⟩ := follow_closed result limit
        rw [result] at read
        rw [heard, state]
        exact read ▸ remainder.refl _
      | some message =>
        rw [result] at read
        dsimp only at read
        have left := dispatch_messages remainder treats message (onChannel Channel.read plane).state
        rw [read]
        cases outcome : (serve message plane).value with
        | error fault =>
          obtain ⟨heard, -, state⟩ := follow_stopped result outcome limit
          rw [heard, state]
          exact remainder.cons message left
        | ok _ =>
          obtain ⟨heard, -, state⟩ := follow_served result outcome limit
          rw [heard, state]
          exact remainder.cons message (remainder.trans (ih (serve message plane).state) left)

omit [Controller τ Script] in
theorem announced_messages (plane : Plane τ Script) :
    plane.announced.channel.messages = plane.channel.messages :=
  Script.attempt_messages _ _

theorem run_messages (remainder : Remainder R) (treats : Treats τ R) (limit : Nat)
    (plane : Plane τ Script) :
    R (heard limit plane ++ (run limit plane).state.channel.messages) plane.channel.messages := by
  have same := announced_messages plane
  cases result : (Channel.announce plane.channel).value with
  | error fault =>
    obtain ⟨heard, -, state⟩ := run_refused result limit
    rw [heard, state]
    exact same ▸ remainder.refl _
  | ok _ =>
    obtain ⟨heard, -, state⟩ := run_begun result limit
    have followed := follow_messages remainder treats limit plane.announced
    have channel : (run limit plane).state.channel =
        (follow limit plane.announced).state.channel := by
      rw [state]
      split <;> rfl
    rw [heard, channel, ← same]
    exact followed

theorem runs_messages (remainder : Remainder R) (treats : Treats τ R) (limits : List Nat)
    (plane : Plane τ Script) :
    R (heardAll limits plane ++ (after run limits plane).channel.messages)
      plane.channel.messages := by
  induction limits generalizing plane with
  | nil => exact remainder.refl _
  | cons limit limits ih =>
    -- The later runs share what the first one left, whatever state it ended in.
    have later := remainder.append (heard limit plane) (ih (run limit plane).state)
    have first := run_messages remainder treats limit plane
    rw [heardAll, List.append_assoc]
    exact remainder.trans later first

/-- A run returns if its limit allows a reading for each message and one for the end. -/
theorem follow_returns (treats : Treats τ List.Sublist) {limit : Nat} {plane : Plane τ Script}
    (enough : plane.channel.messages.length < limit) :
    (follow limit plane).value.isSome = true := by
  induction limit generalizing plane with
  | zero => exact absurd enough (Nat.not_lt_zero _)
  | succ limit ih =>
    have read := Script.read_messages plane.channel
    cases result : (Channel.read plane.channel).value with
    | error fault => rw [(follow_failed result limit).2.1]; rfl
    | ok message =>
      cases message with
      | none => rw [(follow_closed result limit).2.1]; rfl
      | some message =>
        rw [result] at read
        dsimp only at read
        have left := (dispatch_messages Remainder.sublist treats message
          (onChannel Channel.read plane).state).length_le
        cases outcome : (serve message plane).value with
        | error fault => rw [(follow_stopped result outcome limit).2.1]; rfl
        | ok _ =>
          rw [(follow_served result outcome limit).2.1]
          apply ih
          rw [read, List.length_cons] at enough
          exact Nat.lt_of_le_of_lt left (Nat.lt_of_succ_lt_succ enough)

theorem run_returns (treats : Treats τ List.Sublist) {limit : Nat} {plane : Plane τ Script}
    (enough : plane.channel.messages.length < limit) : (run limit plane).value.isSome = true := by
  cases result : (Channel.announce plane.channel).value with
  | error fault => rw [(run_refused result limit).2.1]; rfl
  | ok _ =>
    rw [(run_begun result limit).2.1]
    exact follow_returns treats (announced_messages plane ▸ enough)

end Script

/-- A plane serves the messages of its stream in order, up to the first fatal fault or to the end,
and is terminated then. It does not begin if it may not announce itself. -/
structure ServesInOrder {σ C : Type} [Channel C] [Controller σ C] (plane : Plane σ C) : Prop where
  refused (fault : Fault) (limit : Nat)
    (refusal : (Channel.announce plane.channel).value = .error fault) :
    heard limit plane = [] ∧ (run limit plane).value = some (.error fault) ∧
    (run limit plane).state = { plane with
      channel := (Channel.announce plane.channel).state
      phase := .terminated }
  served (messages : List Message) (ending : Except Fault Unit) (limit : Nat)
    (accepted : (Channel.announce plane.channel).value = .ok ())
    (streams : Streams messages ending plane.announced) (enough : messages.length < limit) :
    ∃ unread, Served limit messages ending plane unread
  terminated (limit : Nat) (returns : (run limit plane).value.isSome = true) :
    (run limit plane).state.phase = .terminated

/-- Runs on a script go on where the one before stopped: together they dispatch its messages in
order, none of them twice, and skip none if the controllers do not read. -/
structure ResumesInOrder {τ : Type} [Controller τ Script] (plane : Plane τ Script) : Prop where
  whole (spare : Treats τ Eq) (limits : List Nat) :
    heardAll limits plane ++ (after run limits plane).channel.messages = plane.channel.messages
  part (treats : Treats τ List.Sublist) (limits : List Nat) :
    (heardAll limits plane ++ (after run limits plane).channel.messages).Sublist
      plane.channel.messages
  returns (treats : Treats τ List.Sublist) (limit : Nat)
    (enough : plane.channel.messages.length < limit) : (run limit plane).value.isSome = true

end Plane

/-- Actions on scripts that leave the messages alone. -/
def sparing : Correspondence Script Script where
  Rel action _ := ∀ script, (action script).state.messages = script.messages
  pure _ _ := rfl
  bind first next script := (next _ _).trans (first script)
  aside _ _ _ := rfl
  log _ _ _ := rfl
  configure _ _ := Script.attempt_messages _
  insertAll _ script := Script.attempt_messages _ script
  acknowledge _ _ := Script.attempt_messages _

/-- The agent's controllers never read. -/
theorem features_spare {P : Type} [Telemetry.Publisher P] : Treats (Agent.Feature P) Eq where
  arbitrate := (Agent.Feature.respected (R := sparing)).arbitrate
  handle := (Agent.Feature.respected (R := sparing)).handle

/-- A digest of addresses that holds something else. -/
def badDigest : Message :=
  .event (.digest ⟨5, 1, [.bool true], 0⟩)

/-- Address learning on a script that starts with a bad digest. -/
def learner (policy : Policy) : Plane (Agent.Feature Telemetry.LogPublisher) Script where
  channel := { deviceId := 1, electionId := 10, messages := [badDigest, .unknown], policy }
  catalog := ⟨{}, .null⟩
  program := []
  stack := [.fallback {}, .learning ⟨5, 0⟩]

end SwitchAgent.Control
