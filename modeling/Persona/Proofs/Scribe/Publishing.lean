import Persona.Proofs.Json.Roundtrip
import Persona.Proofs.Scribe.Keeping

/-!
# Publications

What comes of a question: a specification is written, kept and announced. An answer of the model
that holds no specification is no failure, and neither is anything that Twitter or Bluesky answer.
But what the model writes is used unchecked, and a command that cannot be run is a fault that is
passed on: git may be missing, or the title be one that the system does not take as an argument.
What is announced is where the specification was kept, be it pushed or not.

Main statements: `publish_published`, `publish_returns_iff`, `publish_of_zero_in_title`,
`announces_pushed_iff`.
-/

namespace Persona

namespace Scribe

open World (Same)

/-! ## Writing -/

/-- The specification that the model writes next, if it does. -/
def written (s : Scribe) (w : World) : Option Spec :=
  match s.hasModel, w.model with
  | true, .gives (some reply) :: _ => (Spec.ofReply reply).toOption
  | _, _ => none

theorem Spec.ofReply_of_decode {reply v : Json} {text : String} (htext : jsonText reply = .ok text)
    (hv : Json.decode (Text.trim text) = .ok v) :
    Spec.ofReply reply = (Spec.ofJson v).mapError .mismatch := by
  have hread : (jsonText reply).mapError Fault.mismatch = .ok text := by rw [htext]; rfl
  have hvalue : (Json.decode (Text.trim text)).mapError Fault.decoding = .ok v := by rw [hv]; rfl
  exact (Outcome.bind_of_ok hread _).trans (Outcome.bind_of_ok hvalue _)

theorem isFailure_of_ofReply {reply : Json} {f : Fault} (h : Spec.ofReply reply = .error f) :
    f.isFailure = true := by
  rcases Outcome.of_bind_eq_error h with htext | ⟨text, -, hrest⟩
  · obtain ⟨e, rfl⟩ := Outcome.of_mapError_eq_error htext
    rfl
  · rcases Outcome.of_bind_eq_error hrest with hvalue | ⟨v, -, hspec⟩
    · obtain ⟨e, rfl⟩ := Outcome.of_mapError_eq_error hvalue
      rfl
    · obtain ⟨e, rfl⟩ := Outcome.of_mapError_eq_error hspec
      rfl

/-- Whatever the model answers, there is a specification or none. -/
theorem writeSpec_written (s : Scribe) (question : Json) (w : World) :
    ∃ w', s.writeSpec question w = (.ok (s.written w), w') ∧ Same World.stage w w' := by
  unfold writeSpec written
  cases s.hasModel with
  | false => exact ⟨_, rfl, Act.print_stage _ w⟩
  | true =>
      let prompt : Prompt := {
        model := modelName
        maxTokens := 8000
        system := specInstructions
        message := .str (Spec.prompt question) }
      let attempt : Act (Option Spec) := do
        let reply ← Act.ask prompt
        return some (← MonadExcept.ofExcept (Spec.ofReply reply))
      have hread (reply : Json) :
          (MonadExcept.ofExcept (Spec.ofReply reply) : Act Spec).Recoverable := by
        cases hreply : Spec.ofReply reply with
        | ok spec => exact .pure spec
        | error f => exact .throw (isFailure_of_ofReply hreply)
      have hattempt : attempt.Recoverable :=
        .bind (Act.Asking.ask prompt).recoverable fun _ => .bind (hread _) fun _ => .pure _
      have hstage : attempt.Leads (Same World.stage) :=
        .bind (Act.ask_stage prompt) fun _ => .bind (.ofExcept _) fun _ => .pure _
      obtain ⟨w', hrun, hlast⟩ := Act.recover_print hattempt _ w
      refine ⟨w', hrun.trans ?_, Eq.trans hlast (hstage w)⟩
      have hask := Act.ask_apply prompt w
      refine congrArg (fun r => (Except.ok r, w')) ?_
      match hmodel : w.model with
      | [] | .fails text :: rest | .gives none :: rest =>
          rw [hmodel] at hask
          have hfailed : attempt w = _ := Act.bind_of_error hask
          rw [hfailed]
          rfl
      | .gives (some reply) :: rest =>
          rw [hmodel] at hask
          have hasked : attempt w = _ := Act.bind_of_ok hask
          rw [hasked]
          dsimp only
          cases Spec.ofReply reply <;> rfl

/-! ## Publishing -/

/-- A specification that can be published. -/
structure Publishable (s : Scribe) (w : World) (spec : Spec) : Prop where
  /-- The highlights are texts. -/
  listed : ∃ texts : List String, spec.highlights.items = .ok (texts.map .str)
  /-- For a tweet they are cut, and an object cannot be. -/
  sliced : s.hasTwitter = true → ∀ fs, spec.highlights ≠ .obj fs
  keepable : spec.Keepable w

/-- All that is announced of a specification that is kept somewhere. -/
def announcements (s : Scribe) (spec : Spec) (url : String) (w : World) : List Announcement :=
  s.tweets spec url ++ s.posts spec url w

/-- What can come of a question, and what is announced then. -/
inductive Published (s : Scribe) (w : World) :
    Except Fault (Option Publication) → List Announcement → Prop
  | unwritten (h : s.written w = none) : Published s w (.ok none) []
  | failed {spec : Spec} (h : s.written w = some spec) (hspec : ¬s.Publishable w spec) (f : Fault) :
    Published s w (.error f) []
  | announced {spec : Spec} {url : String} (h : s.written w = some spec)
    (hspec : s.Publishable w spec) (hurl : spec.KeptAt w url) (p : Publication) :
    Published s w (.ok (some p)) (s.announcements spec url w)

theorem Publishable.congr {s : Scribe} {spec : Spec} {w w' : World} (h : Same World.stage w w')
    (hspec : s.Publishable w spec) : s.Publishable w' spec :=
  ⟨hspec.listed, hspec.sliced, hspec.keepable.congr h⟩

theorem exists_discordMessage {spec : Spec} {xs : List Json} (h : spec.highlights.items = .ok xs)
    (url : String) : ∃ message, discordMessage spec url = .ok message := by
  unfold discordMessage bullets
  rw [h]
  exact ⟨_, rfl⟩

theorem announcements_congr (s : Scribe) (spec : Spec) (url : String) {w w' : World}
    (h : Same World.outlook w w') : s.announcements spec url w' = s.announcements spec url w := by
  rw [announcements, posts_congr s spec url (congrArg Outlook.clock h) (congrArg Outlook.http h),
    announcements]

/-- Everything is announced that can be. -/
theorem announce_of_sliced (s : Scribe) {spec : Spec} {xs : List Json}
    (hitems : spec.highlights.items = .ok xs)
    (hsliced : s.hasTwitter = true → ∀ fs, spec.highlights ≠ .obj fs) (url : String) (w : World) :
    ∃ p w', s.announce spec url w = (.ok p, w') ∧
      w'.announcements = w.announcements ++ s.announcements spec url w := by
  let w₀ := w.record (.out "\n📢 Announcing to the world...\n")
  have hprint : Act.print "\n📢 Announcing to the world..." w = (.ok (), w₀) := rfl
  have hsaid : w₀.announcements = w.announcements := World.announcements_record_of_none rfl
  obtain ⟨twitter, w₁, htwitter, houtlook⟩ := s.announceTwitter_of_sliced spec url w₀
    fun htwitter => (topBullets_ok_iff hitems).mpr (hsliced htwitter)
  obtain ⟨bluesky, w₂, hbluesky, hposts⟩ := s.announceBluesky_announcements spec url w₁
  obtain ⟨message, hmessage⟩ := exists_discordMessage hitems url
  have htweets : w₁.announcements = w₀.announcements ++ s.tweets spec url :=
    congrArg Outlook.announcements houtlook
  have hsame : s.posts spec url w₁ = s.posts spec url w :=
    posts_congr s spec url (congrArg Outlook.clock houtlook) (congrArg Outlook.http houtlook)
  refine ⟨{ spec, url, twitter, bluesky, discord := message }, w₂, ?_, ?_⟩
  · rw [announce, Act.bind_of_ok hprint, Act.bind_of_ok htwitter, Act.bind_of_ok hbluesky, hmessage]
    rfl
  · rw [hposts, htweets, hsame, hsaid, announcements, List.append_assoc]

/-- For a tweet, highlights that are an object end everything before it is announced. -/
theorem announce_of_obj (s : Scribe) {spec : Spec} {fs : List (String × Json)}
    (htwitter : s.hasTwitter = true) (hobj : spec.highlights = .obj fs) (url : String) (w : World) :
    ∃ f w', s.announce spec url w = (.error f, w') ∧ w'.announcements = w.announcements := by
  have hbullets : topBullets spec.highlights = .error (.notHashable "slice") := by rw [hobj]; rfl
  have hsaid : (w.record (.out "\n📢 Announcing to the world...\n")).announcements =
      w.announcements := World.announcements_record_of_none rfl
  have htweet := s.announceTwitter_of_error spec url
    (w.record (.out "\n📢 Announcing to the world...\n")) htwitter hbullets
  exact ⟨_, _, (Act.bind_of_ok (Act.print_apply _ w)).trans (Act.bind_of_error htweet), hsaid⟩

/-- What can come of bringing out a specification, with the world after it. -/
inductive BroughtOut (s : Scribe) (spec : Spec) (w : World) :
    Except Fault Publication × World → Prop
  | announced {url : String} {w' : World} (hspec : s.Publishable w spec) (hurl : spec.KeptAt w url)
    (hmade : w'.announcements = w.announcements ++ s.announcements spec url w) (p : Publication) :
    BroughtOut s spec w (.ok p, w')
  | failed {w' : World} (hspec : ¬s.Publishable w spec)
    (hmade : w'.announcements = w.announcements) (f : Fault) : BroughtOut s spec w (.error f, w')

theorem BroughtOut.congr {s : Scribe} {spec : Spec} {w w' : World} (h : Same World.stage w w')
    {r : Except Fault Publication × World} (hr : BroughtOut s spec w' r) :
    BroughtOut s spec w r := by
  have hback : Same World.stage w' w := Eq.symm h
  have hannouncements : w'.announcements = w.announcements := h.outlook.announcements
  cases hr with
  | announced hspec hurl hmade p =>
      rw [hannouncements, announcements_congr s spec _ h.outlook] at hmade
      exact .announced (hspec.congr hback) (hurl.congr hback) hmade p
  | failed hspec hmade f =>
      exact .failed (fun h' => hspec (h'.congr h)) (hmade.trans hannouncements) f

theorem keep_announce (s : Scribe) {spec : Spec} {texts : List String}
    (hitems : spec.highlights.items = .ok (texts.map .str)) (w : World) :
    BroughtOut s spec w ((keep spec >>= s.announce spec) w) := by
  have houtlook := keep_outlook spec w
  have hkept := keep_kept spec w
  rcases hrun : keep spec w with ⟨r, w₁⟩
  rw [hrun] at hkept houtlook
  rcases hkept with ⟨hkeepable, url, rfl, hurl⟩ | ⟨hkeepable, f, rfl⟩
  · rw [Act.bind_of_ok hrun]
    by_cases hsliced : s.hasTwitter = true → ∀ fs, spec.highlights ≠ .obj fs
    · obtain ⟨p, w', hannounce, hmade⟩ := s.announce_of_sliced hitems hsliced url w₁
      rw [hannounce]
      refine .announced ⟨⟨texts, hitems⟩, hsliced, hkeepable⟩ hurl ?_ p
      rw [hmade, announcements_congr s spec url houtlook, houtlook.announcements]
    · obtain ⟨htwitter, hobj⟩ := Classical.not_imp.mp hsliced
      obtain ⟨fs, hobj⟩ := Classical.not_forall.mp hobj
      obtain ⟨f, w', hannounce, hmade⟩ :=
        s.announce_of_obj htwitter (Classical.not_not.mp hobj) url w₁
      rw [hannounce]
      exact .failed (fun hspec => hsliced hspec.sliced) (hmade.trans houtlook.announcements) f
  · rw [Act.bind_of_error hrun]
    exact .failed (fun hspec => hkeepable hspec.keepable) houtlook.announcements f

/-- A specification is brought out just when it is publishable. Else nothing is announced. -/
theorem bringOut_broughtOut (s : Scribe) (spec : Spec) (w : World) :
    BroughtOut s spec w (s.bringOut spec w) := by
  -- What is printed changes nothing for what is to come.
  have hprint {text : String} {x : Act Publication} {w : World}
      (h : BroughtOut s spec (Act.print text w).2 (x (Act.print text w).2)) :
      BroughtOut s spec w ((do Act.print text; x) w) := h.congr (Act.print_stage text w)
  refine hprint (hprint ?_)
  cases hjoined : spec.highlights.joined ", " with
  | error e =>
      refine .failed (fun hspec => ?_) rfl _
      obtain ⟨text, htext⟩ := (Json.joined_ok_iff ", ").mpr hspec.listed
      rw [hjoined] at htext
      cases htext
  | ok text =>
      obtain ⟨texts, hitems⟩ := (Json.joined_ok_iff ", ").mp ⟨text, hjoined⟩
      exact hprint (hprint (s.keep_announce hitems _))

/-- What comes of a question hangs on what the model writes and on what is written being
publishable. -/
theorem publish_published (s : Scribe) (question : Json) (w : World) :
    ∃ made, (s.publish question w).2.announcements = w.announcements ++ made ∧
      Published s w (s.publish question w).1 made := by
  let w₁ := (Act.print "📝 Generating Phi specification..."
    (Act.print ("\n🔮 Oracle received: " ++ question.text ++ "\n") w).2).2
  have hprinted : Same World.stage w w₁ := (Act.print_stage _ _).trans (Act.print_stage _ w)
  obtain ⟨w₂, hwrite, hstage⟩ := s.writeSpec_written question w₁
  have hsame : Same World.stage w w₂ := hstage.trans hprinted
  have hwritten : s.written w₁ = s.written w := rfl
  rw [hwritten] at hwrite
  cases hspec : s.written w with
  | none =>
      rw [hspec] at hwrite
      have hpublish : s.publish question w = (.ok none, w₂) := Act.bind_of_ok hwrite
      rw [hpublish]
      refine ⟨[], ?_, .unwritten hspec⟩
      rw [List.append_nil]
      exact hsame.outlook.announcements
  | some spec =>
      rw [hspec] at hwrite
      have hpublish : s.publish question w = (s.bringOut spec >>= fun p => pure (some p)) w₂ :=
        Act.bind_of_ok hwrite
      have hbrought := (s.bringOut_broughtOut spec w₂).congr hsame
      rcases hrun : s.bringOut spec w₂ with ⟨r, w₃⟩
      rw [hrun] at hbrought
      cases hbrought with
      | announced hpublishable hurl hmade p =>
          rw [Act.bind_of_ok hrun] at hpublish
          rw [hpublish]
          exact ⟨_, hmade, .announced hspec hpublishable hurl p⟩
      | failed hpublishable hmade f =>
          rw [Act.bind_of_error hrun] at hpublish
          rw [hpublish]
          refine ⟨[], ?_, .failed hspec hpublishable f⟩
          rw [List.append_nil]
          exact hmade

/-- A question is answered with a value, about an error or about a publication, just when what the
model writes is publishable. What Twitter and Bluesky answer does not matter. -/
theorem publish_returns_iff (s : Scribe) (question : Json) (w : World) :
    ((∃ result, (s.publish question w).1 = .ok result) ↔
      ∀ spec, s.written w = some spec → s.Publishable w spec) ∧
    ∀ result, (s.publish question w).1 = .ok result →
      ∃ fields, Publication.json result = .obj fields ∧
        (fields.map (·.1) = ["error"] ∧ s.written w = none ∨
          fields.map (·.1) = ["spec", "announcements"] ∧ ∃ spec, s.written w = some spec) := by
  obtain ⟨made, -, hpublished⟩ := s.publish_published question w
  generalize (s.publish question w).1 = r at hpublished
  cases hpublished with
  | unwritten h =>
      refine ⟨⟨fun _ spec hspec => ?_, fun _ => ⟨none, rfl⟩⟩, ?_⟩
      · rw [h] at hspec
        cases hspec
      · rintro result ⟨⟩
        exact ⟨_, rfl, .inl ⟨rfl, h⟩⟩
  | @failed spec h hspec f =>
      exact ⟨⟨nofun, fun hall => absurd (hall spec h) hspec⟩, nofun⟩
  | @announced spec url h hspec hurl p =>
      refine ⟨⟨fun _ spec' h' => ?_, fun _ => ⟨some p, rfl⟩⟩, ?_⟩
      · rw [h] at h'
        cases h'
        exact hspec
      · rintro result ⟨⟩
        exact ⟨_, rfl, .inr ⟨rfl, spec, h⟩⟩

/-- A system that hands over arguments as texts which end with a zero, and that has room for so many
bytes of them. -/
def strict (room : Nat) : System where
  startError? command :=
    if command.arguments.any Act.hasNul then some .zeroByte
    else if room < ("".intercalate command.arguments).utf8ByteSize then some .tooLong
    else none

/-- Such a system does not start the commit of a specification with a zero in its title. So once the
file was added, the question has no answer. -/
theorem publish_of_zero_in_title {s : Scribe} {question : Json} {w : World} {spec : Spec}
    {room : Nat} (hsystem : w.system = strict room) (hwritten : s.written w = some spec)
    (htitle : Act.hasNul spec.title.text = true) (hadded : verdict 1 w.commands = .done) :
    ¬∃ result, (s.publish question w).1 = .ok result := by
  rintro ⟨result, hresult⟩
  obtain ⟨made, -, hpublished⟩ := s.publish_published question w
  rw [hresult] at hpublished
  cases hpublished with
  | unwritten h => cases h.symm.trans hwritten
  | announced h hspec hurl p =>
      cases h.symm.trans hwritten
      obtain ⟨folder, text, files, hshelved⟩ := hspec.keepable.shelved
      have hstarts := hspec.keepable.started folder hshelved.sorted
      obtain ⟨-, hlater⟩ := starts_cons_iff.mp hstarts
      obtain ⟨hcommit, -⟩ := starts_cons_iff.mp (hlater hadded)
      have hzero :
          Act.hasNul ("feat: Add " ++ spec.fileName ++ " - " ++ spec.title.text) = true := by
        simp only [Act.hasNul, String.toList_append, List.contains_append, Bool.or_eq_true]
        exact .inr htitle
      simp [hsystem, strict, gitCommand, hzero] at hcommit

/-- A specification as the model may write it. -/
def identity : Spec where
  name := .str "id"
  title := .str "Identity"
  content := .str "id x = x"
  summary := .str "Itself."
  highlights := .arr [.str "total"]
  category := .str "meta"

/-- The value that stands for it in a reply. -/
def identityValue : Json := .obj [
  ("name", identity.name), ("title", identity.title), ("content", identity.content),
  ("summary", identity.summary), ("highlights", identity.highlights),
  ("category", identity.category)]

theorem decode_identityValue : Json.decode identityValue.encode = .ok identityValue := by
  have hsound : ∀ s ∈ ["name", "id", "title", "Identity", "content", "id x = x", "summary",
      "Itself.", "highlights", "total", "category", "meta"], Text.Sound s := by
    intro s hs
    apply Text.sound_of_not_mem_mark
    revert s
    decide
  refine Json.decode_encode ?_ ?_
  · exact ⟨hsound _ (by simp), hsound _ (by simp), hsound _ (by simp), hsound _ (by simp),
      hsound _ (by simp), hsound _ (by simp), hsound _ (by simp), hsound _ (by simp),
      hsound _ (by simp), ⟨hsound _ (by simp), trivial⟩, hsound _ (by simp), hsound _ (by simp),
      trivial⟩
  · exact ⟨by decide, trivial, trivial, trivial, trivial, ⟨trivial, trivial⟩, trivial, trivial⟩

theorem ofReply_identityValue : Spec.ofReply (.str identityValue.encode) = .ok identity := by
  have hbare : Text.contains identityValue.encode "```json" = false ∧
      Text.contains identityValue.encode "```" = false ∧
      Text.trim identityValue.encode = identityValue.encode := by decide +kernel
  obtain ⟨hjson, hmark, htrim⟩ := hbare
  have htext : jsonText (.str identityValue.encode) = .ok identityValue.encode := by
    simp [jsonText, Json.holds, hjson, hmark, Json.asText, bind, Except.bind]
  rw [Spec.ofReply_of_decode htext (by rw [htrim, decode_identityValue])]
  rfl

/-- The model writes the specification, and commands end like this. -/
def identityWorld (commands : List (Scripted Outcome)) : World where
  clock := ⟨0⟩
  draws := ⟨[], 0⟩
  model := [.gives (some (.str identityValue.encode))]
  commands := commands

theorem written_identityWorld {s : Scribe} (hs : s.hasModel = true)
    (commands : List (Scripted Outcome)) : s.written (identityWorld commands) = some identity := by
  rw [written, hs]
  change (Spec.ofReply (.str identityValue.encode)).toOption = _
  rw [ofReply_identityValue]
  rfl

/-- Where git is not installed, a question about a specification as it should be has no answer. -/
theorem missing_git_ends_publishing :
    ¬∃ result, ((⟨true, false, none, none⟩ : Scribe).publish (.str "What is the identity?")
      (identityWorld [.gives .notInstalled])).1 = .ok result := by
  rintro ⟨result, hresult⟩
  obtain ⟨made, -, hpublished⟩ := publish_published ⟨true, false, none, none⟩
    (.str "What is the identity?") (identityWorld [.gives .notInstalled])
  rw [hresult] at hpublished
  cases hpublished with
  | unwritten h =>
      rw [written_identityWorld rfl] at h
      cases h
  | announced h hspec hurl p => exact hspec.keepable.run rfl

/-! ## What is announced -/

/-- A specification of which something can be announced. -/
def Audible (s : Scribe) (w : World) (spec : Spec) : Prop :=
  (∀ fs, spec.highlights ≠ .obj fs) ∧ (s.hasTwitter = true ∨ (s.session? w).isSome)

theorem announcements_ne_nil_iff {s : Scribe} {w : World} {spec : Spec} {xs : List Json}
    (hitems : spec.highlights.items = .ok xs) (url : String) :
    s.announcements spec url w ≠ [] ↔ s.Audible w spec := by
  rw [Audible, ← topBullets_ok_iff hitems, announcements, tweets, posts]
  cases topBullets spec.highlights with
  | error e => cases s.hasTwitter <;> cases s.session? w <;> simp
  | ok bullets => cases s.hasTwitter <;> cases s.session? w <;> simp

/-- What is announced is where the specification was kept. It is the address of a pushed file, just
when git did not refuse a specification that can be published and announced. -/
theorem announces_pushed_iff (s : Scribe) (question : Json) (w : World) :
    ∃ made, (s.publish question w).2.announcements = w.announcements ++ made ∧
      (made ≠ [] → ∃ spec url, s.written w = some spec ∧ spec.KeptAt w url ∧
        made = s.announcements spec url w) ∧
      ((made ≠ [] → verdict 3 w.commands = .done ∧ ∃ spec folder, s.written w = some spec ∧
          folderOf spec.category = .ok folder ∧
          made = s.announcements spec (spec.address folder) w) ↔
        ∀ spec, s.written w = some spec → s.Publishable w spec → s.Audible w spec →
          verdict 3 w.commands ≠ .refused) := by
  obtain ⟨made, hmade, hpublished⟩ := s.publish_published question w
  refine ⟨made, hmade, ?_⟩
  generalize (s.publish question w).1 = r at hpublished
  cases hpublished with
  | unwritten h =>
      refine ⟨fun hne => absurd rfl hne, fun _ spec hspec => ?_, fun _ hne => absurd rfl hne⟩
      rw [h] at hspec
      cases hspec
  | @failed spec h hspec f =>
      refine ⟨fun hne => absurd rfl hne, fun _ spec' h' hspec' => ?_, fun _ hne => absurd rfl hne⟩
      rw [h] at h'
      cases h'
      exact absurd hspec' hspec
  | @announced spec url h hspec hurl p =>
      refine ⟨fun _ => ⟨spec, url, h, hurl, rfl⟩, ?_⟩
      obtain ⟨texts, hitems⟩ := hspec.listed
      cases hurl with
      | @pushed folder hfolder hgit =>
          refine ⟨fun _ _ _ _ _ => ?_, fun _ _ => ⟨hgit, spec, folder, h, hfolder, rfl⟩⟩
          rw [hgit]
          exact nofun
      | @unpushed folder hfolder hgit =>
          -- The path of the file is announced as soon as anything is.
          refine ⟨fun hpushed spec' h' _ haudible _ => ?_, fun hall hne => ?_⟩
          · rw [h] at h'
            cases h'
            obtain ⟨hdone, -⟩ := hpushed ((announcements_ne_nil_iff hitems _).mpr haudible)
            rw [hgit] at hdone
            cases hdone
          · exact absurd hgit (hall spec h hspec ((announcements_ne_nil_iff hitems _).mp hne))

theorem shelved_identity (commands : List (Scripted Outcome)) : ∃ folder text files,
    identity.Shelved (identityWorld commands) folder text files := by
  have hshelved : ∃ folder text files,
      identity.Shelved (identityWorld []) folder text files := by
    refine ⟨"examples/meta", _, _, rfl, rfl, ?_, _, rfl, rfl⟩
    decide +kernel
  obtain ⟨folder, text, files, h⟩ := hshelved
  exact ⟨folder, text, files, h.sorted, h.composed, h.encodable, h.room⟩

/-- Where git refuses the file, its path is tweeted, and no address. -/
theorem refused_file_tweeted :
    verdict 3 (identityWorld [.gives (.exited 1 .null .null)]).commands = .refused ∧
      ∃ text, ((⟨true, true, none, none⟩ : Scribe).publish (.str "What is the identity?")
          (identityWorld [.gives (.exited 1 .null .null)])).2.announcements =
            [.tweet (.str text) none] ∧
        Text.contains text "\nIdeaProjects/phi/specs/phi-core/examples/meta/id.phi\n" = true ∧
        Text.contains text "https://github.com" = false := by
  refine ⟨rfl, ?_⟩
  obtain ⟨made, hmade, hpublished⟩ := publish_published ⟨true, true, none, none⟩
    (.str "What is the identity?") (identityWorld [.gives (.exited 1 .null .null)])
  have hwritten := written_identityWorld (s := ⟨true, true, none, none⟩) rfl
    [.gives (.exited 1 .null .null)]
  have hspec : Publishable ⟨true, true, none, none⟩
      (identityWorld [.gives (.exited 1 .null .null)]) identity :=
    ⟨⟨["total"], rfl⟩, nofun, shelved_identity _, fun _ _ _ _ => rfl, nofun⟩
  generalize Prod.fst _ = r at hpublished
  cases hpublished with
  | unwritten h => cases h.symm.trans hwritten
  | failed h hfailed f =>
      cases h.symm.trans hwritten
      exact absurd hspec hfailed
  | announced h hspec hurl p =>
      cases h.symm.trans hwritten
      cases hurl with
      | pushed hfolder hgit => cases hgit
      | unpushed hfolder hgit =>
          cases hfolder
          refine ⟨_, hmade, ?_⟩
          decide +kernel

end Scribe

end Persona
