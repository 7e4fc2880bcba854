import StructureGrader.Service.Desk

/-!
# Requests side by side

Requests that run side by side take their steps in any order. A request to compare is known by its
number in the order of arrival. Each step that others can see is noted (`Note`): slots taken and
given back, reports stored and fetched, answers given.
-/

namespace StructureGrader.Service

/-- Something that has happened; requests to compare are given by their numbers. -/
inductive Note
  /-- A request was answered without being admitted. -/
  | turnedAway (request : Nat) (response : Response)
  | tookSlot (request : Nat)
  | stored (request : Nat) (name : String) (report : Report Float)
  | gaveBack (request : Nat)
  /-- A request had no slot to give back. -/
  | overRelease (request : Nat)
  /-- A request that was admitted was answered. -/
  | answered (request : Nat) (response : Response)
  | fetched (name : String) (response : Response)

/-- The service with the requests to compare that have arrived. -/
structure Traffic where
  desk : Desk
  /-- The requests in the order of their arrival, each with its job until it is answered. -/
  jobs : List (Option Job) := []
  /-- What has happened, the last thing first. -/
  log : List Note := []

/-- A step that some request takes. -/
inductive Event
  /-- A request to compare arrives. -/
  | arrive (form : Form)
  /-- A request that was admitted takes its next step; `id` is the number for a new report. -/
  | advance (request : Nat) (around : Surroundings) (id : Nat)
  /-- A request that was admitted is stopped. -/
  | interrupt (request : Nat) (trouble : Trouble)
  /-- A report is asked for. -/
  | fetch (name : String)

/-- What is noted of a step of a request, by the stages before and after it. -/
def Stage.notes (request : Nat) : Stage → Stage → List Note
  | .graded _, .stored name report => [.stored request name report]
  | .answered _, .leaving _ => [.gaveBack request]
  | .answered _, .stuck => [.overRelease request]
  | _, _ => []

namespace Traffic

/-- A service at the start, without any requests. -/
def opened (s : Settings) (temporary : Place := ["tmp"]) : Traffic :=
  { desk := .opened s temporary }

/-- The job of a request that was admitted and is not answered yet. -/
def job? (t : Traffic) (request : Nat) : Option Job :=
  t.jobs[request]?.join

/-- The traffic after a step that took a request from one job to another. -/
def proceed (t : Traffic) (request : Nat) (before after : Job) (desk : Desk) : Traffic :=
  let log := before.stage.notes request after.stage ++ t.log
  match after.answer? with
  | none => ⟨desk, t.jobs.set request (some after), log⟩
  | some response => ⟨desk, t.jobs.set request none, .answered request response :: log⟩

/-- The traffic after a step. A step of a request that is not there changes nothing. -/
def step (t : Traffic) : Event → Traffic
  | .arrive form =>
    let request := t.jobs.length
    match t.desk.enter form with
    | (.error response, desk) =>
      ⟨desk, t.jobs ++ [none], .turnedAway request response :: t.log⟩
    | (.ok job, desk) => ⟨desk, t.jobs ++ [some job], .tookSlot request :: t.log⟩
  | .advance request around id =>
    match t.job? request with
    | none => t
    | some job =>
      let (after, desk) := t.desk.advance around (ReportId.text id) job
      t.proceed request job after desk
  | .interrupt request trouble =>
    match t.job? request with
    | none => t
    | some job => t.proceed request job (job.interrupt trouble) t.desk
  | .fetch name => { t with log := .fetched name (t.desk.fetch name) :: t.log }

/-- The traffic after several steps. -/
def run (t : Traffic) (events : List Event) : Traffic :=
  events.foldl step t

end Traffic

end StructureGrader.Service
