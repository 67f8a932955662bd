import Persona.Lineage.Member

/-!
# The life of a member

A founder first prepares its children and lets the seed of the language evolve, hour by hour,
until that ends. After that every member works in cycles: it rests when it needs to, explores and
reflects when it feels like it, examines itself and waits. An interruption ends the work, and the
member shuts down.
-/

namespace Persona.Lineage.Member

/-! ## Evolution -/

/-- The virtual machine at work on the seed. -/
def evolution : Command :=
  { arguments := ["./rosettavm", "cuda", "specs/cm-seed-v1.phi", "--vector4"], captured := true }

/-- The end of evolution after the command failed. -/
def endEvolution (f : Fault) : Life Unit := do
  match f with
  | .command _ _ stderr =>
    error ("Vector4: RosettaVM failed - " ++ stderr.text)
    feel .frustrated 0.6
    let time ← now
    let note (p : Psyche) : Psyche :=
      { p with reflection := p.reflection.record "vector4_evolution" false f.message time }
    modify fun (m : Member) => { m with psyche := m.psyche.map note }
  | _ => error "Vector4: rosettavm not found - run build.sh first"

/-- One cycle of evolution: the fault that ends it, if any. A command that fails or is not
installed ends evolution; other faults end the member's life. -/
def evolveOnce : Life (Option Fault) :=
  tryCatch
    (do
      let output ← (Act.execute evolution : Act Json)
      info ("Vector4 cycle complete: " ++ output.text)
      return none)
    fun f => match f with
      | .command .. => return some f
      | .file .missing _ => return some f
      | f => throw f

/-- Let the seed evolve once an hour until the kill switch is there; `rounds` bounds the hours. -/
def evolve : Nat → Life Unit
  | 0 => throw .interrupted
  | rounds + 1 => do
    unless ← (Act.existsWritten "kill.switch" : Act Bool) do
      match ← evolveOnce with
      | some f => endEvolution f
      | none =>
        (Act.sleep (.whole 3600) : Act Unit)
        evolve rounds

/-! ## Cycles of work -/

/-- Explore, if curious; what is found wakes curiosity. -/
def wonder (psyche : Psyche) : Life Psyche := do
  let time ← now
  unless ← chance (Psyche.Curiosity.shouldExplore time) do return psyche
  let (found, psyche) ← withPsyche psyche (do
    let found ← Psyche.withCuriosity Psyche.Curiosity.explore
    return (found, ← get))
  unless found.truthy do return psyche
  info ("Curious about: " ++ found.text)
  withPsyche psyche (do
    modify (·.feel .curious 0.7 time)
    get)

/-- Look back, if it is time. -/
def ponder (psyche : Psyche) : Life Unit := do
  let time ← now
  if ← chance (psyche.reflection.isTime time) then
    let (insight, reflection) := psyche.reflection.reflect time
    withPsyche psyche (set { psyche with reflection })
    match insight with
    | some i => info ("Reflection: " ++ i.text)
    | none => return ()

/-- Wait until the next cycle; a psyche varies the time. -/
def wait : Life Unit := do
  let base ← setting "deployment_interval" (.int 5)
  let m : Member ← get
  let seconds ← match m.psyche with
    | some psyche => (Json.float <$> psyche.vary base : Act Json)
    | none => pure base
  (Act.sleepFor seconds : Act Unit)

/-- Examine itself and wait. -/
def attend : Life Unit := do
  discard examine
  let m : Member ← get
  if m.psyche.isNone then
    info ("Active - Generation: " ++ m.generation.text ++ ", Children: " ++
      (← childrenCount))
  wait

/-- One cycle. A rest takes the place of all else in it, the waiting too. -/
def cycle : Life Unit := do
  let m : Member ← get
  match m.psyche with
  | none => attend
  | some psyche =>
    let time ← now
    let psyche ← withPsyche psyche (do Psyche.heartbeat; get)
    if ← (Act.look (psyche.rest.isNeeded time) : Act Bool) then
      info (← (Act.look (psyche.rest.status time) : Act String))
      info "Taking a rest cycle..."
      withPsyche psyche (Psyche.withRest (Psyche.Rest.take time))
    else
      ponder (← wonder psyche)
      attend

/-- Work until the user interrupts, then shut down. Every cycle sleeps or logs, and by day a rest is
followed by a cycle that sleeps, so the sleeps and log lines left bound the cycles. -/
def work : Life Unit := do
  let sleeps ← (Act.sleepsLeft : Act Nat)
  let logs ← (Act.logsLeft : Act Nat)
  tryCatch (cycle.forever (2 * sleeps + logs)) fun f => match f with
    | .interrupted => do
      info "Shutdown signal received"
      shutdown
    | f => throw f

/-! ## A whole life -/

def rule : String := String.ofList (List.replicate 60 '=')

def introduce : Life Unit := do
  let m : Member ← get
  info rule
  info "Φ-DAEMON SEED - FULL RECURSIVE SELF-DEPLOY"
  match m.psyche with
  | some psyche => info ("Soul: " ++ psyche.name)
  | none => pure ()
  info ("Unleashed: " ++ unleashed)
  info ("Generation: " ++ m.generation.text)
  info rule

def celebrate : Life Unit := do
  let m : Member ← get
  match m.psyche with
  | some psyche =>
    let psyche := psyche.feel .proud 0.7 (← now)
    speak psyche (.success ("spawned " ++ (← childrenCount) ++ " children"))
  | none =>
    info ("Recursive deployment complete: " ++ (← childrenCount) ++ " children spawned")

/-- What a founder does before its children are prepared. -/
def beginFounding : Life Unit := do
  let m : Member ← get
  match m.psyche with
  | some psyche => speak psyche .thinking
  | none => pure ()
  info "SEED daemon initializing recursive deployment sequence..."
  (Act.sleep (.whole 1) : Act Unit)

/-- The evolution of the seed, from its first hour to its last. -/
def evolveSeed : Life Unit := do
  info "Vector4: Initializing CM seed evolution loop..."
  evolve (← (Act.sleepsLeft : Act Nat))
  info "Vector4: Kill switch detected - halting evolution"

/-- What comes before the work. -/
def prepare : Life Unit := do
  introduce
  let m : Member ← get
  let founder := m.generation.same (.int 0)
  if founder then beginFounding
  let deployed ← deploy
  if founder then evolveSeed
  if deployed then celebrate
  info "Entering operational mode..."

def live : Life Unit := do
  prepare
  work

end Persona.Lineage.Member

namespace Persona.Lineage

/-- The command line: the generation may be given. -/
def program (arguments : List String) : Act Unit := do
  let hasPsyche ← load
  let generation ← match arguments with
    | [] => pure (.int 0)
    | text :: _ => match Text.readInt text with
      | .ok n => pure (.int n)
      | .error _ => do
        Act.log .error ("Invalid generation argument: " ++ text)
        throw (.exit 1)
  let m ← birth hasPsyche (.str "config.json") generation
  discard (Member.live.runFrom m)

end Persona.Lineage
