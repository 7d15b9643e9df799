import BulkLoad.Fault
import BulkLoad.Write.Retry
import BulkLoad.Write.Tracker
import BulkLoad.Write.World

/-!
Writing one body until it is accepted, or until it has been refused too often.

A refusal costs one attempt and is followed by a growing wait. An overloaded server costs nothing:
after a fixed wait the attempts are counted afresh.
-/
namespace BulkLoad

inductive BackoffError where
  | retriesExhausted (attempts : Nat) (last : String)
  | trackerClosed (worker : Nat)
  deriving DecidableEq, Repr

namespace BackoffError

def message : BackoffError → String
  | .retriesExhausted attempts last =>
    "write failed after " ++ toString attempts ++ " attempts: " ++ last
  | .trackerClosed worker =>
    "backoff tracker for worker " ++ toString worker ++ " stopped unexpectedly"

def fault (worker : Nat) (e : BackoffError) : Fault := .write worker e.message

end BackoffError

/-- How a write ends. Against a server that is overloaded for ever it does not. -/
inductive WriteEnd where
  | written (latency : Nat)
  | failed (e : BackoffError)
  | crashed
  | endless
  deriving DecidableEq, Repr

/-- The writer of one worker. -/
structure Controller where
  destination : Destination
  policy : RetryPolicy
  backoff : Nat
  tracker : Tracker

namespace Controller

def ofConfig (destination : Destination) (c : RetryConfig) : Controller where
  destination := destination
  policy := .ofConfig c
  backoff := Span.ofMillis c.backoffMs
  tracker := { worker := destination.worker }

def worker (c : Controller) : Nat := c.destination.worker

/-- A write between two requests: the number of the attempt, the tracker, the time, and what was
told and signalled, the newest first. -/
structure Writing where
  attempt : Nat := 1
  tracker : Tracker
  clock : Nat
  toldNewestFirst : Journal := []
  signalsNewestFirst : List Signal := []

namespace Writing

def tell (w : Writing) (told : Journal) : Writing :=
  { w with toldNewestFirst := told.reverse ++ w.toldNewestFirst }

def signal (w : Writing) (overloaded : Bool) : Writing :=
  { w with
    tracker := w.tracker.signal w.clock overloaded
    signalsNewestFirst := ⟨w.clock, overloaded⟩ :: w.signalsNewestFirst }

/-- Waits; ended episodes are told meanwhile. -/
def wait (w : Writing) (span : Nat) : Writing :=
  match w.tracker.pause with
  | (tracker, told) => { w with tracker, clock := w.clock + span }.tell told

end Writing

def target : String := "backoff::controller"

def overloadCounter : String := "tsbs_load_overload_signals_total"

def retryCounter : String := "tsbs_load_write_retries_total"

def toldOverload (c : Controller) : Event :=
  Journal.say .debug target "Server overloaded, backing off"
    [("worker", .nat c.worker), ("backoff_ms", .nat (Span.millis c.backoff))]

def toldExhausted (c : Controller) (attempts : Nat) (failure : String) : Event :=
  Journal.say .warn target "Retries exhausted"
    [("worker", .nat c.worker), ("attempts", .nat attempts), ("error", .text failure)]

def toldRetry (c : Controller) (attempt delay : Nat) (failure : String) : Event :=
  Journal.say .warn target "Write failed, retrying"
    [ ("worker", .nat c.worker), ("attempt", .nat attempt)
    , ("max_retries", .nat c.policy.maxRetries), ("delay_ms", .nat (Span.millis delay))
    , ("error", .text failure) ]

/-- What one answer does to a write; the write may have ended with it. -/
def step (c : Controller) (w : Writing) (x : Exchange) : Option WriteEnd × Writing :=
  let w := { w with clock := w.clock + x.took }
  match x.reply.verdict with
  | .crashed => (some .crashed, w)
  | .written => (some (.written x.took), w.signal false)
  | .overloaded =>
    let w := (w.tell [.count overloadCounter 1]).signal true
    (none, { (w.tell [c.toldOverload]).wait c.backoff with attempt := 1 })
  | .refused failure =>
    if c.policy.allowsRetry w.attempt then
      let delay := (c.policy.window w.attempt).pick x.chance
      let w := w.tell [.count retryCounter 1, c.toldRetry w.attempt delay failure]
      (none, { w.wait delay with attempt := w.attempt + 1 })
    else
      (some (.failed (.retriesExhausted w.attempt failure)),
        (w.tell [c.toldExhausted w.attempt failure]).signal false)

/-- A write after some answers: how it ended, if it did, where it stands, and the times at which
requests were made, the latest first. -/
structure Run where
  ended : Option WriteEnd
  writing : Writing
  sentAt : List Nat

/-- Follows a list of answers to its end or to the end of the write; requests may have been made
before. -/
def follow (c : Controller) (w : Writing) (sentAt : List Nat) : List Exchange → Run
  | [] => ⟨none, w, sentAt⟩
  | x :: xs =>
    match c.step w x with
    | (some ended, next) => ⟨some ended, next, w.clock :: sentAt⟩
    | (none, next) => follow c next (w.clock :: sentAt) xs

/-- How often the same answer is met before it ends a write, if it ever does. -/
def patience (c : Controller) (attempt : Nat) (x : Exchange) : Nat :=
  match x.reply.verdict with
  | .overloaded => 0
  | .refused _ => max c.policy.maxRetries attempt + 1 - attempt
  | _ => 1

/-- Follows the answers listed and, if they do not end the write, the one that repeats. -/
def followWorld (c : Controller) (w : Writing) (world : World) : Run :=
  match c.follow w [] world.answers with
  | ⟨none, w, sentAt⟩ =>
    let last := world.fallback c.destination
    c.follow w sentAt (List.replicate (c.patience w.attempt last) last)
  | run => run

/-- How a write ended, and what it left behind. -/
structure Written where
  ended : WriteEnd
  controller : Controller
  world : World
  told : Journal
  signals : List Signal

/-- Writes a body. -/
def write (c : Controller) (world : World) (body : Bytes) (gzip : Bool) : Written :=
  let run := c.followWorld { tracker := c.tracker, clock := world.clock } world
  { ended := run.ended.getD .endless
    controller := { c with tracker := run.writing.tracker }
    world :=
      { world.receive ⟨c.destination, gzip, body⟩ run.sentAt with
        clock := run.writing.clock
        answers := world.answers.drop run.sentAt.length }
    told := run.writing.toldNewestFirst.reverse
    signals := run.writing.signalsNewestFirst.reverse }

/-- The end of the worker's writing: the time it held back, and what is told. -/
def close (c : Controller) : Nat × Journal := c.tracker.close

end Controller
end BulkLoad
