import SwitchAgent.Action
import SwitchAgent.Fault

/-!
# Publishers

Reports are published by topic and key. One publisher only logs what it is given; the other
queues it for a broker and says on closing what was not delivered.
-/

namespace SwitchAgent.Telemetry

class Publisher (P : Type) where
  publish : String → List UInt8 → List UInt8 → Action P (Except Fault Unit)

structure LogPublisher where
  broker : String
  published : Nat := 0
  deriving DecidableEq, Repr

namespace LogPublisher

variable {σ : Type}

def create (broker : String) : Action σ LogPublisher := do
  Action.info s!"Publishing telemetry reports for broker {broker}"
  return ⟨broker, 0⟩

instance : Publisher LogPublisher where
  publish topic key report := do
    let p ← Action.get
    Action.set { p with published := p.published + 1 }
    Action.debug <|
      s!"[{p.broker}] {topic}: key {key.length} bytes, report {report.length} bytes"
    return .ok ()

end LogPublisher

structure Publication where
  topic : String
  key : List UInt8
  report : List UInt8
  deriving DecidableEq, Repr

/-- A queue that is delivered in the background. -/
structure QueuePublisher where
  queued : List Publication := []
  deriving DecidableEq, Repr

namespace QueuePublisher

variable {σ : Type}

def create (servers : String) : Action σ QueuePublisher := do
  Action.info s!"Publishing telemetry reports to Kafka at {servers}"
  return {}

instance : Publisher QueuePublisher where
  publish topic key report := do
    Action.modify fun p => { p with queued := p.queued ++ [⟨topic, key, report⟩] }
    return .ok ()

/-- Give up what is still queued. -/
def close : Action QueuePublisher Unit := do
  for publication in (← Action.get).queued do
    Action.warn s!"Report to {publication.topic} not delivered"
  Action.set {}

end QueuePublisher

/-- The publisher that a broker's address asks for. -/
inductive BrokerPublisher where
  | log (publisher : LogPublisher)
  | queue (publisher : QueuePublisher)
  deriving DecidableEq, Repr

namespace BrokerPublisher

variable {σ : Type}

/-- Without a broker reports are only logged. -/
def create (address : String) : Action σ BrokerPublisher := do
  if address.isEmpty then return .log (← LogPublisher.create "log")
  else return .queue (← QueuePublisher.create address)

instance : Publisher BrokerPublisher where
  publish topic key report := do
    match ← Action.get with
    | .log p => do
      let (p, result) ← (Publisher.publish topic key report).aside p
      Action.set (.log p)
      return result
    | .queue p => do
      let (p, result) ← (Publisher.publish topic key report).aside p
      Action.set (.queue p)
      return result

end BrokerPublisher

end SwitchAgent.Telemetry
