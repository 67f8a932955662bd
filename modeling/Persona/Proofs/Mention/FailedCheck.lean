import Persona.Proofs.Mention.Checks
import Persona.Proofs.Mention.SharedCursors

/-!
# Cursors after a failed check

A check can fail before or after it has read the id of the newest mention. Before, the cursor and
the file are as they were, so the next check asks for the same mentions again. After, the cursor has
moved to that id, in the inbox and, if the save was not what failed, in the file too: mentions that
could not be taken apart are passed over.

Main statements: `failed_check_cursor`, and `failed_check_passes_over` for a mention that is lost.
-/

namespace Persona.Mention

/-! ## Where the cursor goes -/

/-- The place for the cursor that the first part of a fetch found. -/
def newestOf : Except Fault (Option Found) → Option Json
  | .ok (some found) => some found.newest
  | _ => none

section Conclude

variable {σ : Type} (moved : Json → σ) (save : Json → Act Unit) (s : σ)

/-- Success or not, the state is moved to where the first part says. -/
theorem conclude_state (a : Except Fault (Option Found) × World) :
    (conclude moved save s a).1.2 = (newestOf a.1).elim s moved := by
  obtain ⟨r, w⟩ := a
  match r with
  | .error f => rfl
  | .ok none => rfl
  | .ok (some found) =>
      rcases hsave : save found.newest w with ⟨r', w'⟩
      rw [conclude, hsave]
      cases r' <;> rfl

/-- Success or not, the files are as the save leaves them. -/
theorem conclude_files (a : Except Fault (Option Found) × World) :
    (conclude moved save s a).2.files =
      (newestOf a.1).elim a.2.files fun v => (save v a.2).2.files := by
  obtain ⟨r, w⟩ := a
  match r with
  | .error f => rfl
  | .ok none => rfl
  | .ok (some found) =>
      rcases hsave : save found.newest w with ⟨r', w'⟩
      rw [conclude, hsave]
      cases r' <;> exact (congrArg (·.2.files) hsave).symm

variable {moved save s}

/-- A failure of either part is reported; by then the state is moved, and the files are as a save in
the world before would have left them, if the first part found where to move to. -/
theorem report_of_fails {fetch : ActOn σ (List Json)} {ask : Act (Option Found)}
    (hfetch : Concludes moved save s fetch ask) (hask : Act.Asking ask)
    (hsave : ∀ v, Act.Filing (save v)) {w w₁ : World} (hfiles : w₁.files = w.files) {f : Fault}
    (hfails : (fetch s w₁).1.1 = .error f) (line : String) :
    ∃ w' : World, report line (fetch s w₁) =
        ((.ok [], (newestOf (ask w₁).1).elim s moved),
          w'.record (.out (line ++ f.message ++ "\n"))) ∧
      w'.files = (newestOf (ask w₁).1).elim w.files fun v => (save v w).2.files := by
  rw [hfetch] at hfails ⊢
  refine ⟨(conclude moved save s (ask w₁)).2, ?_, ?_⟩
  · rw [← conclude_state moved save s (ask w₁)]
    rcases hrun : conclude moved save s (ask w₁) with ⟨⟨r, s'⟩, w'⟩
    rw [hrun] at hfails
    subst hfails
    rfl
  · have hasked : (ask w₁).2.files = w.files := (hask.files_eq w₁).trans hfiles
    rw [conclude_files, hasked]
    congr 1
    funext v
    rw [(hsave v).frame w _ hasked]

end Conclude

namespace Inbox

/-- What the first part of a check's fetch gives; nothing when it is not reached. -/
def asked : Inbox → World → Except Fault (Option Found)
  | twitter s, w => match TwitterInbox.connect w with
    | (.ok true, w₁) => (TwitterInbox.ask s w₁).1
    | _ => .ok none
  | mastodon s, w => match MastodonInbox.headers w with
    | (.ok (some header), w₁) => (MastodonInbox.ask s header w₁).1
    | _ => .ok none
  | bluesky s, w => match BlueskyInbox.ensureSession s w with
    | ((.ok true, s₁), w₁) => (BlueskyInbox.ask s₁ w₁).1
    | _ => .ok none

/-- The id, or time, of the newest mention that a check reads. -/
def newest? (i : Inbox) (w : World) : Option Json := newestOf (i.asked w)

/-- A check comes as far as to fetch, and the fetch fails. -/
def Fails : Inbox → World → Fault → Prop
  | twitter s, w, f => ∃ w₁, TwitterInbox.connect w = (.ok true, w₁) ∧
    (TwitterInbox.fetch s w₁).1.1 = .error f
  | mastodon s, w, f => ∃ header, MastodonInbox.headers w = (.ok (some header), w) ∧
    (MastodonInbox.fetch header s w).1.1 = .error f
  | bluesky s, w, f => ∃ s₁ w₁, BlueskyInbox.ensureSession s w = ((.ok true, s₁), w₁) ∧
    (BlueskyInbox.fetch s₁ w₁).1.1 = .error f

/-- The start of the line with which an inbox reports a failure. -/
def complaint : Inbox → String
  | twitter _ => "Error fetching mentions: "
  | mastodon _ => "Error fetching Mastodon mentions: "
  | bluesky _ => "Error fetching Bluesky mentions: "

/-- A check that fails prints its line and gives nothing. Unless it had read the id of the newest
mention, its cursor and all files are as they were. If it had, the cursor is that id and the files
are what a save of that id makes of them. -/
theorem failed_check_cursor (i : Inbox) (w : World) (f : Fault) (h : i.Fails w f) :
    ∃ (i' : Inbox) (w' : World),
      i.check w = (.ok ([], i'), w'.record (.out (i.complaint ++ f.message ++ "\n"))) ∧
      i'.lastSeen = (i.newest? w).getD i.lastSeen ∧
      w'.files = (i.newest? w).elim w.files fun v => (i.saveCursor v w).2.files := by
  cases i with
  | twitter s =>
      obtain ⟨w₁, hconnect, hfails⟩ := h
      have hfiles : w₁.files = w.files := by
        obtain ⟨trace, happly, -⟩ := TwitterInbox.connect_apply w
        rw [happly] at hconnect
        obtain rfl := (Prod.mk.inj hconnect).2
        rfl
      have hasked : (twitter s).asked w = (TwitterInbox.ask s w₁).1 := by rw [asked, hconnect]
      obtain ⟨w', hreport, hw'⟩ := report_of_fails (TwitterInbox.fetch_eq s)
        (TwitterInbox.asking_ask s) (Cursor.filing_saveFirst TwitterInbox.key) hfiles hfails
        (twitter s).complaint
      have hcheck := (TwitterInbox.check_of_connected hconnect).trans hreport
      rw [newest?, hasked]
      refine ⟨_, w', Act.bind_of_ok (ActOn.runFrom_of_ok hcheck), ?_, hw'⟩
      cases newestOf (TwitterInbox.ask s w₁).1 <;> rfl
  | mastodon s =>
      obtain ⟨header, hheader, hfails⟩ := h
      have hasked : (mastodon s).asked w = (MastodonInbox.ask s header w).1 := by
        rw [asked, hheader]
      obtain ⟨w', hreport, hw'⟩ := report_of_fails (MastodonInbox.fetch_eq s header)
        (MastodonInbox.asking_ask s header) (Cursor.filing_save MastodonInbox.key) rfl hfails
        (mastodon s).complaint
      have hcheck := (MastodonInbox.check_of_token hheader).trans hreport
      rw [newest?, hasked]
      refine ⟨_, w', Act.bind_of_ok (ActOn.runFrom_of_ok hcheck), ?_, hw'⟩
      cases newestOf (MastodonInbox.ask s header w).1 <;> rfl
  | bluesky s =>
      obtain ⟨s₁, w₁, hsession, hfails⟩ := h
      obtain ⟨hseen, hfiles⟩ : s₁.lastSeen = s.lastSeen ∧ w₁.files = w.files := by
        obtain ⟨session, w', happly, hfiles⟩ := BlueskyInbox.ensureSession_apply s w
        rw [happly, Prod.mk.injEq, Prod.mk.injEq] at hsession
        obtain ⟨⟨-, rfl⟩, rfl⟩ := hsession
        exact ⟨rfl, hfiles⟩
      have hasked : (bluesky s).asked w = (BlueskyInbox.ask s₁ w₁).1 := by rw [asked, hsession]
      obtain ⟨w', hreport, hw'⟩ := report_of_fails (BlueskyInbox.fetch_eq s₁)
        (BlueskyInbox.asking_ask s₁) (Cursor.filing_save BlueskyInbox.key) hfiles hfails
        (bluesky s).complaint
      have hcheck := (BlueskyInbox.check_of_session hsession).trans hreport
      rw [newest?, hasked]
      refine ⟨_, w', Act.bind_of_ok (ActOn.runFrom_of_ok hcheck), ?_, hw'⟩
      cases newestOf (BlueskyInbox.ask s₁ w₁).1 with
      | none => exact hseen
      | some v => rfl

/-! ## A mention that is passed over -/

def bareInbox : MastodonInbox := { server := "https://example.org" }

/-- A world in which the server answers with a mention that says nothing of its status. -/
def bareWorld : World where
  clock := ⟨0⟩
  draws := ⟨[], 0⟩
  environment := [("MASTODON_ACCESS_TOKEN", "secret")]
  http := [.gives { json := some (.arr [.obj [("id", .str "7"), ("type", .str "mention")]]) }]

theorem fails_bare : (mastodon bareInbox).Fails bareWorld (.mismatch (.noField "status")) :=
  ⟨[("Authorization", "Bearer secret")], rfl, rfl⟩

theorem failed_check_cursor_bare :
    (mastodon bareInbox).Fails bareWorld (.mismatch (.noField "status")) ∧
      ∃ (i' : Inbox) (w' : World), (mastodon bareInbox).check bareWorld =
          (.ok ([], i'), w'.record (.out "Error fetching Mastodon mentions: 'status'\n")) ∧
        i'.lastSeen = .str "7" ∧
        w'.files = ((mastodon bareInbox).saveCursor (.str "7") bareWorld).2.files := by
  have hline : (mastodon bareInbox).complaint ++
      Fault.message (.mismatch (.noField "status")) ++ "\n" =
      "Error fetching Mastodon mentions: 'status'\n" := by decide +kernel
  obtain ⟨i', w', hcheck, hcursor, hfiles⟩ :=
    failed_check_cursor (mastodon bareInbox) bareWorld _ fails_bare
  rw [hline] at hcheck
  exact ⟨fails_bare, i', w', hcheck, hcursor, hfiles⟩

/-- The check fails on the mention, but the cursor has gone from nothing to it and is on file: no
later check asks for the mention again. -/
theorem failed_check_passes_over :
    bareInbox.lastSeen = .null ∧ bareWorld.files.text? Cursor.place = none ∧
      (mastodon bareInbox).Fails bareWorld (.mismatch (.noField "status")) ∧
      ∃ w', (mastodon bareInbox).check bareWorld =
          (.ok ([], mastodon { bareInbox with lastSeen := .str "7" }), w') ∧
        w'.files.text? Cursor.place = some "\x7b\"mastodon_last_id\": \"7\"\x7d" :=
  ⟨rfl, rfl, fails_bare, _, rfl, by decide⟩

end Inbox

end Persona.Mention
