import Persona.Proofs.World.Succession
import Persona.Psyche.Basic

/-!
# The chain of moods

A mood changes in one way only: something is felt, and what was there before is put down in the
history. So the tones of the history and the current one form a chain, from the curiosity of a new
psyche over all that was felt. They are emotions, so every look into a table of emotions finds one.

What was felt, and where tables were looked into, is told by notes that are taken on the way.

Main statement: `moods_form_chain`.
-/

namespace Persona.Psyche

open ActOn (Ends Maintains Noted note silent withinNoting)

/-! ## What can be asked of a psyche -/

inductive Operation where
  /-- Feel an emotion that is asked for by name. -/
  | feel (emotion intensity : Json)
  | drift
  | color
  | heartbeat
  /-- Speak on a topic as it is asked for. -/
  | speak (kind : Option Json) (told : Json)
  | notice (thing amount : Json)
  | explore
  | record (action : String) (success : Bool) (remarks : String)
  | reflect
  | work (intensity : Json)
  | rest
  | decide
  | vary (base : Json)
  | journal

def Operation.act : Operation → ActOn Psyche Unit
  | feel emotion intensity => withMood (Mood.feelAs emotion intensity)
  | drift => withMood Mood.drift
  | color => do
    let s : Psyche ← get
    discard ((s.mood.color : Act String) : ActOn Psyche String)
  | heartbeat => Psyche.heartbeat
  | speak kind told => do
    let topic ← (Act.look (Topic.ofRequest kind told) : Act Topic)
    discard (Psyche.speak topic)
  | notice thing amount => do
    let s : Psyche ← get
    let curiosity ← (MonadExcept.ofExcept (s.curiosity.notice thing amount) : Act Curiosity)
    set { s with curiosity }
  | explore => discard (withCuriosity Curiosity.explore)
  | record action success remarks => do
    let now ← (Act.now : Act Moment)
    modify fun s : Psyche =>
      { s with reflection := s.reflection.record action success remarks now }
  | reflect => do
    let now ← (Act.now : Act Moment)
    modify fun s : Psyche => { s with reflection := (s.reflection.reflect now).2 }
  | work intensity => do
    let s : Psyche ← get
    let rest ← (MonadExcept.ofExcept (s.rest.workAs intensity) : Act Rest)
    set { s with rest }
  | rest => do
    let now ← (Act.now : Act Moment)
    withRest (Rest.take now)
  | decide => do
    let s : Psyche ← get
    discard ((s.decide : Act Intent) : ActOn Psyche Intent)
  | vary base => do
    let s : Psyche ← get
    discard ((s.vary base : Act Float) : ActOn Psyche Float)
  | journal => do
    let s : Psyche ← get
    let now ← (Act.now : Act Moment)
    discard ((MonadExcept.ofExcept (s.journal now) : Act String) : ActOn Psyche String)

/-- The psyche after some operations, each in a world of its own. -/
def after (s : Psyche) (run : List (Operation × World)) : Psyche := ActOn.after Operation.act s run

/-! ## Operations with notes -/

inductive Note where
  /-- An emotion is felt from now on. -/
  | felt (e : Emotion)
  /-- A table of emotions is looked into under a tone. -/
  | consulted (tone : Tone)

def Note.emotion? : Note → Option Emotion
  | felt e => some e
  | consulted _ => none

def Note.tone? : Note → Option Tone
  | felt _ => none
  | consulted tone => some tone

/-- The emotions felt, in their order. -/
def felt (notes : List Note) : List Emotion := notes.filterMap Note.emotion?

/-- The tones under which tables were looked into. -/
def consulted (notes : List Note) : List Tone := notes.filterMap Note.tone?

namespace Mood

def feelAsNoting (emotion intensity : Json) : ActOn (Mood × List Note) Unit := do
  note fun _ _ => .felt (requested emotion)
  silent (feelAs emotion intensity)

def driftNoting : ActOn (Mood × List Note) Unit := do
  let chance {α : Type} (c : Chance α) : ActOn (Mood × List Note) α := (Act.chance c : Act α)
  let now ← (Act.now : Act Moment)
  let intensity ← (MonadExcept.ofExcept ((← silent get).faded now) : Act Float)
  silent (modify fun m : Mood => { m with intensity := .float intensity })
  if ← chance (Chance.happens 0.1) then
    let m : Mood ← silent get
    note fun m _ => .consulted m.current
    let (first, rest) ← (Act.look m.drifts : Act (Emotion × List Emotion))
    if ← chance (Chance.happens 0.3) then
      let e ← chance (Chance.pick first rest)
      note fun _ _ => .felt e
      silent (set (m.feel e (intensity * 0.8) now))

end Mood

def withMoodNoting {α : Type} (x : ActOn (Mood × List Note) α) : ActOn (Psyche × List Note) α :=
  withinNoting (·.mood) (fun mood s => { s with mood }) x

def pauseNoting (s : Psyche) (now : Moment) : ActOn (Psyche × List Note) Unit := do
  match (s.reflection.reflect now).1 with
  | some .manyFailures => note fun _ _ => .felt .reflective
  | some .goingWell => note fun _ _ => .felt .content
  | _ => pure ()
  silent (set (s.pause now))

def heartbeatNoting : ActOn (Psyche × List Note) Unit := do
  let now ← (Act.now : Act Moment)
  withMoodNoting Mood.driftNoting
  let s : Psyche ← silent get
  let rest ← (MonadExcept.ofExcept (s.rest.work (Phase.ofMoment now).energy) : Act Rest)
  let s := { s with rest }
  silent (set s)
  if ← (Act.chance (s.reflection.isTime now) : Act Bool) then pauseNoting s now

def speakNoting (topic : Topic) : ActOn (Psyche × List Note) String := do
  let now ← (Act.now : Act Moment)
  let chance (c : Chance String) : ActOn (Psyche × List Note) String := (Act.chance c : Act String)
  let s : Psyche ← silent get
  match topic with
  | .greeting => chance (Voice.greet now)
  | .status uptime children =>
    let time ← (MonadExcept.ofExcept (Voice.uptimePhrase uptime) : Act String)
    note fun s _ => .consulted s.mood.current
    let colour ← (s.mood.color : Act String)
    return " ".intercalate [time, Voice.childrenPhrase children, colour]
  | .error seenBefore =>
    note fun _ _ => .felt .frustrated
    silent (set (s.feel .frustrated 0.6 now))
    chance (Voice.onError seenBefore)
  | .success task =>
    note fun _ _ => .felt .proud
    silent (set (s.feel .proud 0.7 now))
    chance (Voice.onSuccess task)
  | .thinking => chance Voice.thinking
  | .other =>
    note fun s _ => .consulted s.mood.current
    (s.mood.color : Act String)

/-- An operation with notes of what is felt and of the tables that are looked into. -/
def Operation.noting : Operation → ActOn (Psyche × List Note) Unit
  | feel emotion intensity => withMoodNoting (Mood.feelAsNoting emotion intensity)
  | drift => withMoodNoting Mood.driftNoting
  | color => do
    let s : Psyche ← silent get
    note fun s _ => .consulted s.mood.current
    discard ((s.mood.color : Act String) : ActOn (Psyche × List Note) String)
  | heartbeat => heartbeatNoting
  | speak kind told => do
    let topic ← (Act.look (Topic.ofRequest kind told) : Act Topic)
    discard (speakNoting topic)
  | vary base => do
    let s : Psyche ← silent get
    note fun s _ => .consulted s.mood.current
    discard ((s.vary base : Act Float) : ActOn (Psyche × List Note) Float)
  | op => silent op.act

/-- The psyche after some operations, and the notes that were taken. -/
def live (s : Psyche) (run : List (Operation × World)) : Psyche × List Note :=
  ActOn.after Operation.noting (s, []) run

/-! ### The notes change nothing -/

theorem Mood.noted_drift : Noted driftNoting drift := by
  refine .bind (.lift _) fun now => .bind (.silent _) fun m => .bind (.lift _) fun intensity => ?_
  refine .bind (.silent _) fun _ => .bind (.lift _) fun drifts => ?_
  split
  · refine .bind (.silent _) fun m => .note_bind (.bind (.lift _) fun options => ?_) _
    refine .bind (.lift _) fun changes => ?_
    split
    · exact .bind (.lift _) fun e => .note_bind (.silent _) _
    · exact .pure _
  · exact .pure _

theorem noted_withMood {α : Type} {x : ActOn (Mood × List Note) α} {y : ActOn Mood α}
    (h : Noted x y) : Noted (withMoodNoting x) (withMood y) :=
  .within h

theorem noted_pause (s : Psyche) (now : Moment) :
    Noted (s.pauseNoting now) (set (s.pause now)) := by
  unfold pauseNoting
  split
  · exact .note_bind (.silent _) _
  · exact .note_bind (.silent _) _
  · exact .silent _

theorem noted_heartbeat : Noted heartbeatNoting heartbeat := by
  refine .bind (.lift _) fun now => .bind (noted_withMood Mood.noted_drift) fun _ => ?_
  refine .bind (.silent _) fun s => .bind (.lift _) fun rest => .bind (.silent _) fun _ => ?_
  refine .bind (.lift _) fun isTime => ?_
  split
  · exact noted_pause _ now
  · exact .pure _

theorem noted_speak (topic : Topic) : Noted (speakNoting topic) (speak topic) := by
  refine .bind (.lift _) fun now => .bind (.silent _) fun s => ?_
  cases topic with
  | status uptime children =>
      dsimp only [Voice.status]
      rw [ActOn.lift_bind]
      refine .bind (.lift _) fun time => .note_bind ?_ _
      rw [ActOn.lift_bind]
      exact .bind (.lift _) fun colour => .pure _
  | error seenBefore => exact .note_bind (.bind (.silent _) fun _ => .lift _) _
  | success task => exact .note_bind (.bind (.silent _) fun _ => .lift _) _
  | other => exact .note_bind (.lift _) _
  | greeting => exact .lift _
  | thinking => exact .lift _

theorem Operation.noted (op : Operation) : Noted op.noting op.act := by
  cases op with
  | feel emotion intensity => exact noted_withMood (.note_bind (.silent _) _)
  | drift => exact noted_withMood Mood.noted_drift
  | heartbeat => exact noted_heartbeat
  | speak kind told => exact .bind (.lift _) fun topic => .bind (noted_speak topic) fun _ => .pure _
  | color => exact .bind (.silent _) fun s => .note_bind (.bind (.lift _) fun _ => .pure _) _
  | vary base => exact .bind (.silent _) fun s => .note_bind (.bind (.lift _) fun _ => .pure _) _
  | _ => exact .silent _

theorem live_fst (s : Psyche) (run : List (Operation × World)) : (s.live run).1 = s.after run :=
  Noted.after Operation.noted s [] run

/-! ## The chain -/

/-- The tones of the history, and the current one. -/
def Mood.tones (m : Mood) : List Tone := m.history.map (·.tone) ++ [m.current]

/-- A mood that goes with some notes and has a past. -/
structure Chained (past : List Feeling) (m : Mood) (notes : List Note) : Prop where
  tones : m.tones = (Emotion.curious :: felt notes).map .emotion
  consulted : ∀ tone ∈ consulted notes, ∃ e, tone = .emotion e
  past : past <+: m.history

namespace Chained

variable {past : List Feeling} {m m' : Mood} {notes : List Note}

theorem new (now : Moment) : Chained [] (Mood.new now) [] := ⟨rfl, nofun, List.nil_prefix⟩

theorem mem_tones (h : Chained past m notes) {tone : Tone} (htone : tone ∈ m.tones) :
    ∃ e, tone = .emotion e := by
  rw [h.tones] at htone
  obtain ⟨e, -, rfl⟩ := List.mem_map.mp htone
  exact ⟨e, rfl⟩

theorem current (h : Chained past m notes) : ∃ e, m.current = .emotion e :=
  h.mem_tones (List.mem_append_right _ List.mem_cons_self)

/-- A change of the intensity alone. -/
theorem fade (h : Chained past m notes) (hhistory : m'.history = m.history)
    (hcurrent : m'.current = m.current) : Chained past m' notes where
  tones := by rw [← h.tones, Mood.tones, hhistory, hcurrent, Mood.tones]
  consulted := h.consulted
  past := by rw [hhistory]; exact h.past

/-- What is felt is the next link. -/
theorem feel (h : Chained past m notes) (e : Emotion) {left : Feeling}
    (hleft : left.tone = m.current) (hhistory : m'.history = m.history ++ [left])
    (hcurrent : m'.current = .emotion e) :
    Chained past m' (notes ++ [.felt e]) where
  tones := by
    have hfelt : felt (notes ++ [.felt e]) = felt notes ++ [e] := List.filterMap_append
    have htones : m'.tones = m.tones ++ [.emotion e] := by
      simp only [Mood.tones, hhistory, hcurrent, List.map_append, List.map_singleton, hleft]
    rw [htones, h.tones, hfelt, ← List.cons_append, List.map_append, List.map_singleton]
  consulted := by
    have hsame : Psyche.consulted (notes ++ [.felt e]) = Psyche.consulted notes := by
      rw [Psyche.consulted, List.filterMap_append]
      exact List.append_nil _
    rw [hsame]
    exact h.consulted
  past := by rw [hhistory]; exact h.past.trans (List.prefix_append _ _)

/-- A table is looked into under an emotion. -/
theorem consult (h : Chained past m notes) : Chained past m (notes ++ [.consulted m.current]) where
  tones := by
    have hsame : felt (notes ++ [.consulted m.current]) = felt notes := by
      rw [felt, List.filterMap_append]
      exact List.append_nil _
    rw [hsame]
    exact h.tones
  consulted := by
    have hadded : Psyche.consulted (notes ++ [.consulted m.current]) =
        Psyche.consulted notes ++ [m.current] := List.filterMap_append
    rw [hadded, List.forall_mem_append, List.forall_mem_singleton]
    exact ⟨h.consulted, h.current⟩
  past := h.past

end Chained

/-! ### One operation -/

section

variable (past : List Feeling)

theorem Mood.feelAsNoting_chained (emotion intensity : Json) :
    Maintains (fun s => Chained past s.1 s.2) (feelAsNoting emotion intensity) := by
  rintro ⟨m, notes⟩ w h
  have hfelt : Chained past (m.turnTo (requested emotion) w.clock)
      (notes ++ [.felt (requested emotion)]) := h.feel (requested emotion) rfl rfl rfl
  refine .step rfl (.silent (.step rfl (.step rfl ?_)))
  cases intensity.quantity? with
  | none => exact hfelt
  | some q => exact hfelt.fade rfl rfl

theorem Mood.driftNoting_chained :
    Maintains (fun s => Chained past s.1 s.2) driftNoting := by
  rintro ⟨m, notes⟩ w h
  unfold driftNoting
  refine .step rfl (.step rfl ?_)
  cases m.faded w.clock with
  | error f => exact h
  | ok x =>
      have hfaded : Chained past { m with intensity := .float x } notes := h.fade rfl rfl
      refine .step rfl (.step rfl (.step rfl ?_))
      split
      · refine .step rfl (.step rfl ?_)
        cases drifts { m with intensity := .float x } with
        | error e => exact hfaded.consult
        | ok options =>
            refine .step rfl (.step rfl ?_)
            split
            · exact .step rfl (.step rfl (hfaded.consult.feel _ rfl rfl rfl))
            · exact hfaded.consult
      · exact hfaded

theorem withMoodNoting_chained {x : ActOn (Mood × List Note) Unit}
    (hx : Maintains (fun s => Chained past s.1 s.2) x) :
    Maintains (fun s => Chained past s.1.mood s.2) (withMoodNoting x) :=
  fun ⟨s, notes⟩ w h => Ends.withinNoting (hx (s.mood, notes) w h)

theorem pauseNoting_chained {s : Psyche} {notes : List Note} (h : Chained past s.mood notes)
    (now : Moment) (w : World) :
    Ends (s.pauseNoting now) (s, notes) w (fun _ s' _ => Chained past s'.1.mood s'.2)
      fun _ s' _ => Chained past s'.1.mood s'.2 := by
  unfold pauseNoting pause
  rcases s.reflection.reflect now with ⟨insight, reflection⟩
  match insight with
  | some .manyFailures => exact .step rfl (h.feel _ rfl rfl rfl)
  | some .goingWell => exact .step rfl (h.feel _ rfl rfl rfl)
  | some .balanced => exact h
  | none => exact h

theorem heartbeatNoting_chained :
    Maintains (fun s => Chained past s.1.mood s.2) heartbeatNoting := by
  rintro ⟨s, notes⟩ w h
  have hdrift := withMoodNoting_chained past (Mood.driftNoting_chained past) (s, notes) w h
  refine .step rfl (.andThen hdrift fun _ ⟨s', notes'⟩ w' h' => .step rfl ?_)
  cases s'.rest.work (Phase.ofMoment w.clock).energy with
  | error f => exact h'
  | ok rest =>
      refine .step rfl (.step rfl (.step rfl ?_))
      split
      · exact pauseNoting_chained past (s := { s' with rest }) h' _ _
      · exact h'

theorem speakNoting_chained (topic : Topic) :
    Maintains (fun s => Chained past s.1.mood s.2) (speakNoting topic) := by
  rintro ⟨s, notes⟩ w h
  refine .step rfl (.step rfl ?_)
  cases topic with
  | status uptime children =>
      refine .bind (.lift (fun time w' => ?_) fun _ _ => h)
      refine .step rfl (.bind (.lift (fun colour w' => ?_) fun _ _ => h.consult))
      exact h.consult
  | error seenBefore =>
      exact .step rfl (.step rfl (h.feel _ rfl rfl rfl : Chained past (s.mood.feel _ _ _) _))
  | success task =>
      exact .step rfl (.step rfl (h.feel _ rfl rfl rfl : Chained past (s.mood.feel _ _ _) _))
  | other => exact .step rfl (.lift (fun _ _ => h.consult) fun _ _ => h.consult)
  | greeting => exact .lift (fun _ _ => h) fun _ _ => h
  | thinking => exact .lift (fun _ _ => h) fun _ _ => h

/-- An operation that leaves the mood alone, without notes. -/
theorem silent_chained {x : ActOn Psyche Unit}
    (hx : ∀ mood, Maintains (fun s => s.mood = mood) x) :
    Maintains (fun s => Chained past s.1.mood s.2) (silent x) := by
  rintro ⟨s, notes⟩ w h
  have hsame (s' : Psyche) (hs' : s'.mood = s.mood) : Chained past s'.mood notes := by
    rw [hs']
    exact h
  exact .silent ((hx s.mood s w rfl).mono (fun _ s' _ => hsame s') fun _ s' _ => hsame s')

theorem Operation.noting_chained (op : Operation) :
    Maintains (fun s => Chained past s.1.mood s.2) op.noting := by
  cases op with
  | feel emotion intensity =>
      exact withMoodNoting_chained past (Mood.feelAsNoting_chained past emotion intensity)
  | drift => exact withMoodNoting_chained past (Mood.driftNoting_chained past)
  | heartbeat => exact heartbeatNoting_chained past
  | speak kind told => exact .bind (.lift _) fun topic => .discard (speakNoting_chained past topic)
  | color =>
      exact fun s w h => .step rfl (.step rfl (.bind (.lift (fun _ _ => h.consult) fun _ _ =>
        h.consult)))
  | vary base =>
      exact fun s w h => .step rfl (.step rfl (.bind (.lift (fun _ _ => h.consult) fun _ _ =>
        h.consult)))
  | notice thing amount =>
      refine silent_chained past fun mood s w hs => .step rfl ?_
      exact .bind (.lift (fun _ _ => hs) fun _ _ => hs)
  | explore =>
      refine silent_chained past fun mood => .discard fun s w hs => .within ?_
      exact .of_forall (fun _ _ _ => hs) fun _ _ _ => hs
  | record action success remarks =>
      exact silent_chained past fun mood => .bind (.lift _) fun _ => .modify fun _ hs => hs
  | reflect => exact silent_chained past fun mood => .bind (.lift _) fun _ => .modify fun _ hs => hs
  | work intensity =>
      refine silent_chained past fun mood s w hs => .step rfl ?_
      exact .bind (.lift (fun _ _ => hs) fun _ _ => hs)
  | rest =>
      refine silent_chained past fun mood => .bind (.lift _) fun _ s w hs => .within ?_
      exact .of_forall (fun _ _ _ => hs) fun _ _ _ => hs
  | decide =>
      exact silent_chained past fun mood s w hs => .step rfl ((Maintains.lift _).discard s w hs)
  | journal =>
      exact silent_chained past fun mood s w hs =>
        .step rfl (.step rfl ((Maintains.lift _).discard s w hs))

end

/-! ### Runs -/

namespace Chained

variable {past : List Feeling} {s : Psyche} {notes : List Note}

theorem after (h : Chained past s.mood notes) (run : List (Operation × World)) :
    Chained past (s.after run).mood (ActOn.after Operation.noting (s, notes) run).2 := by
  have hrun : Chained past (ActOn.after Operation.noting (s, notes) run).1.mood _ :=
    Maintains.after (I := fun s : Psyche × List Note => Chained past s.1.mood s.2)
      (fun step _ => Operation.noting_chained past step.1) h
  rwa [Noted.after Operation.noted] at hrun

/-- From now on, what is in the history stays there. -/
theorem history_after (h : Chained past s.mood notes) (run : List (Operation × World)) :
    s.mood.history <+: (s.after run).mood.history := by
  have hnow : Chained s.mood.history s.mood notes := ⟨h.tones, h.consulted, List.prefix_rfl⟩
  exact (hnow.after run).past

theorem length_history (h : Chained past s.mood notes) :
    s.mood.history.length = (felt notes).length := by
  have hlength := congrArg List.length h.tones
  simpa [Mood.tones] using hlength

theorem head_history (h : Chained past s.mood notes) {first : Feeling}
    (hfirst : s.mood.history.head? = some first) : first.tone = .emotion .curious := by
  have htones := h.tones
  obtain ⟨rest, hhistory⟩ := List.head?_eq_some_iff.mp hfirst
  rw [Mood.tones, hhistory] at htones
  exact (List.cons.inj htones).1

end Chained

theorem emotion_mem_all (e : Emotion) : e ∈ Emotion.all := by cases e <;> decide

/-- A new psyche that lives through any operations, in any worlds: the tones of its history and the
current one are curiosity and all that was felt, one entry of the history for each feeling. They are
emotions of the list, the history only grows, and no table is looked into under anything else. The
notes are those of the operations themselves. -/
theorem moods_form_chain (workspace : String) (w : World) :
    ∃ s w', settleIn (.str workspace) w = (.ok s, w') ∧
      ∀ run : List (Operation × World), ∃ notes, s.live run = (s.after run, notes) ∧
        let m := (s.after run).mood
        (∀ tone ∈ m.tones, ∃ e ∈ Emotion.all, tone.json = .str e.name) ∧
        m.history.length = (felt notes).length ∧
        (∀ more, m.history <+: (s.after (run ++ more)).mood.history) ∧
        (∀ first, m.history.head? = some first → first.tone = .emotion .curious) ∧
        m.tones = (Emotion.curious :: felt notes).map .emotion ∧
        (∀ tone ∈ consulted notes, ∃ e, tone.emotion? = .ok (some e)) ∧
        ∃ e : Emotion, m.current = .emotion e ∧ m.drifts = .ok e.drifts ∧
          m.phrases = .ok e.phrases ∧ m.pace = .ok e.pace := by
  obtain ⟨s, w', hs, hmood, -⟩ := exists_settleIn workspace w
  refine ⟨s, w', hs, fun run => ⟨_, Prod.ext (s.live_fst run) rfl, ?_⟩⟩
  have hstart : Chained [] s.mood [] := by
    rw [hmood]
    exact .new w.clock
  have hchain := hstart.after run
  obtain ⟨e, he⟩ := hchain.current
  refine ⟨fun tone htone => ?_, hchain.length_history, fun more => ?_, fun _ => hchain.head_history,
    hchain.tones, fun tone htone => ?_, e, he, Mood.drifts_of_emotion he,
    Mood.phrases_of_emotion he, Mood.pace_of_emotion he⟩
  · obtain ⟨e, rfl⟩ := hchain.mem_tones htone
    exact ⟨e, emotion_mem_all e, rfl⟩
  · change _ <+: (ActOn.after Operation.act s (run ++ more)).mood.history
    rw [ActOn.after_append]
    exact hchain.history_after more
  · obtain ⟨e, rfl⟩ := hchain.consulted tone htone
    exact ⟨e, rfl⟩

end Persona.Psyche
