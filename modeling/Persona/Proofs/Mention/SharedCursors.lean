import Persona.Mention.Watch
import Persona.Proofs.Mention.CursorFile

/-!
# Inboxes share the cursor file

The three inboxes save into one file, each under a key of its own. Any sequence of saves leaves,
under each of these keys, what its inbox saved last, and everything else as it was. So the order of
saves by different inboxes shows in the order of the fields only, and an inbox that is opened
afterwards finds its own last value.

Main statement: `saves_keep_cursors`.
-/

namespace Persona.Mention.Inbox

open Cursor

variable {w w' : World} {old : Option (List (String × Json))}

/-! ## Opening an inbox -/

/-- The value that the file holds for an inbox, null when it holds none. -/
def stored (old : Option (List (String × Json))) (key : String) : Json :=
  (Fields.get? (old.getD []) key).getD .null

theorem openTwitter_of_holds (h : Holds w.files old) :
    openTwitter w = (.ok { lastSeen := stored old TwitterInbox.key }, w) := by
  have hload : TwitterInbox.load {} w =
      ((.ok (), { lastSeen := stored old TwitterInbox.key }), w) := by
    rw [TwitterInbox.load, ActOn.bind_lift_of_ok (load_of_holds h TwitterInbox.key)]
    cases old <;> rfl
  rw [openTwitter, Act.bind_of_ok (ActOn.runFrom_of_ok hload)]
  rfl

/-- The server of the environment, or the default one. -/
def serverOf (w : World) : String :=
  (Fields.get? w.environment "MASTODON_INSTANCE").getD "https://fosstodon.org"

theorem openMastodon_of_holds (h : Holds w.files old) :
    openMastodon w =
      (.ok { lastSeen := stored old MastodonInbox.key, server := serverOf w }, w) := by
  have hload : MastodonInbox.load { server := serverOf w } w =
      ((.ok (), { lastSeen := stored old MastodonInbox.key, server := serverOf w }), w) := by
    rw [MastodonInbox.load, ActOn.bind_lift_of_ok (load_of_holds h MastodonInbox.key)]
    cases old <;> rfl
  have hserver : Act.getEnvOr "MASTODON_INSTANCE" "https://fosstodon.org" w =
      (.ok (serverOf w), w) := rfl
  rw [openMastodon, Act.bind_of_ok hserver, Act.bind_of_ok (ActOn.runFrom_of_ok hload)]
  rfl

theorem openBluesky_of_holds (h : Holds w.files old) :
    openBluesky w = (.ok { lastSeen := stored old BlueskyInbox.key }, w) := by
  have hload : BlueskyInbox.load {} w =
      ((.ok (), { lastSeen := stored old BlueskyInbox.key }), w) := by
    rw [BlueskyInbox.load, ActOn.bind_lift_of_ok (load_of_holds h BlueskyInbox.key)]
    cases old <;> rfl
  rw [openBluesky, Act.bind_of_ok (ActOn.runFrom_of_ok hload)]
  rfl

/-! ## Saving -/

/-- The key under which an inbox saves. -/
def key : Inbox → String
  | twitter _ => TwitterInbox.key
  | mastodon _ => MastodonInbox.key
  | bluesky _ => BlueskyInbox.key

/-- The value that an inbox saves. -/
def lastSeen : Inbox → Json
  | twitter s => s.lastSeen
  | mastodon s => s.lastSeen
  | bluesky s => s.lastSeen

/-- Save the cursor of an inbox. -/
def save : Inbox → Act Unit
  | twitter s => return (← TwitterInbox.save.runFrom s).1
  | mastodon s => return (← MastodonInbox.save.runFrom s).1
  | bluesky s => return (← BlueskyInbox.save.runFrom s).1

theorem sound_key (i : Inbox) : Text.Sound i.key := by
  have hkeys : ∀ k ∈ [TwitterInbox.key, MastodonInbox.key, BlueskyInbox.key],
      Text.mark ∉ k.toList := by decide
  apply Text.sound_of_not_mem_mark
  cases i with
  | twitter s => exact hkeys _ (by simp [key])
  | mastodon s => exact hkeys _ (by simp [key])
  | bluesky s => exact hkeys _ (by simp [key])

/-- Store a value as the cursor of an inbox; only the Twitter inbox does so with its own key
first. -/
def saveCursor : Inbox → Json → Act Unit
  | twitter _ => Cursor.saveFirst TwitterInbox.key
  | mastodon _ => Cursor.save MastodonInbox.key
  | bluesky _ => Cursor.save BlueskyInbox.key

theorem save_apply (i : Inbox) (w : World) : i.save w = i.saveCursor i.lastSeen w := by
  rcases hrun : i.saveCursor i.lastSeen w with ⟨r, w'⟩
  cases i with
  | twitter s =>
      have hsave : TwitterInbox.save s w = ((r, s), w') :=
        (ActOn.bind_of_ok (ActOn.get_apply s w)).trans (ActOn.lift_of_eq hrun)
      exact ActOn.runFrom_fst hsave
  | mastodon s =>
      have hsave : MastodonInbox.save s w = ((r, s), w') :=
        (ActOn.bind_of_ok (ActOn.get_apply s w)).trans (ActOn.lift_of_eq hrun)
      exact ActOn.runFrom_fst hsave
  | bluesky s =>
      have hsave : BlueskyInbox.save s w = ((r, s), w') :=
        (ActOn.bind_of_ok (ActOn.get_apply s w)).trans (ActOn.lift_of_eq hrun)
      exact ActOn.runFrom_fst hsave

/-- For the fields of the file it makes no difference which key comes first. -/
theorem saveCursor_of_holds (i : Inbox) (h : Holds w.files old) {v : Json} (hv : Storable v) :
    ∃ t new, i.saveCursor v w = (.ok (), { w with files := t }) ∧ Holds t (some new) ∧
      Updated old i.key v new := by
  cases i with
  | twitter s => exact saveFirst_of_holds h (sound_key (twitter s)) hv
  | mastodon s => exact Cursor.save_of_holds h (sound_key (mastodon s)) hv
  | bluesky s => exact Cursor.save_of_holds h (sound_key (bluesky s)) hv

/-! ## Sequences of saves -/

/-- The last value saved under a key. -/
def lastUnder (saves : List Inbox) (k : String) : Option Json :=
  (saves.filter (·.key = k)).getLast?.map lastSeen

theorem lastUnder_cons (i : Inbox) (saves : List Inbox) (k : String) :
    lastUnder (i :: saves) k =
      (lastUnder saves k).or (if i.key = k then some i.lastSeen else none) := by
  unfold lastUnder
  rw [List.filter_cons]
  split
  · next hk =>
      rw [decide_eq_true_eq] at hk
      rw [if_pos hk, List.getLast?_cons]
      cases (saves.filter (·.key = k)).getLast? <;> rfl
  · next hk =>
      rw [decide_eq_true_eq] at hk
      rw [if_neg hk, Option.or_none]

/-- Each save goes on from the file that the one before it left: under a key stands what was saved
last, and otherwise what stood there at first. -/
theorem saves_of_holds (saves : List Inbox) (hv : ∀ i ∈ saves, Storable i.lastSeen)
    (h : Holds w.files old) :
    ∃ t new, saves.forM save w = (.ok (), { w with files := t }) ∧ Holds t new ∧
      (new = none ↔ old = none ∧ saves = []) ∧
      ∀ k, Fields.get? (new.getD []) k = (lastUnder saves k).or (Fields.get? (old.getD []) k) := by
  induction saves generalizing w old with
  | nil => exact ⟨w.files, old, rfl, h, by simp, fun k => rfl⟩
  | cons i saves ih =>
      obtain ⟨t, mid, hsave, hmid, hupdated⟩ := i.saveCursor_of_holds h (hv i List.mem_cons_self)
      rw [← save_apply] at hsave
      obtain ⟨t', new, hrun, hnew, hnone, hget⟩ :=
        ih (w := { w with files := t }) (fun j hj => hv j (List.mem_cons_of_mem i hj)) hmid
      refine ⟨t', new, (Act.bind_of_ok hsave).trans hrun, hnew, by simpa using hnone, fun k => ?_⟩
      rw [hget, lastUnder_cons, Option.getD_some, hupdated k]
      split <;> cases lastUnder saves k <;> rfl

/-- The saves of the inboxes with a name, in their order. -/
def savesOf (name : String) (saves : List Inbox) : List Inbox := saves.filter (·.name = name)

/-- The last value saved by an inbox with a name. -/
def lastSaved (name : String) (saves : List Inbox) : Option Json :=
  (savesOf name saves).getLast?.map lastSeen

/-- No two platforms share a key. -/
theorem key_eq_key_iff (i j : Inbox) : i.key = j.key ↔ i.name = j.name := by
  cases i <;> cases j <;> simp [key, name, TwitterInbox.key, MastodonInbox.key, BlueskyInbox.key]

theorem lastUnder_key (i : Inbox) (saves : List Inbox) :
    lastUnder saves i.key = lastSaved i.name saves := by
  simp only [lastUnder, lastSaved, savesOf, key_eq_key_iff]

/-- A key that is none of the cursors is never saved under. -/
theorem lastUnder_of_not_mem {k : String}
    (hk : k ∉ [TwitterInbox.key, MastodonInbox.key, BlueskyInbox.key]) (saves : List Inbox) :
    lastUnder saves k = none := by
  have hnone : saves.filter (·.key = k) = [] := by
    rw [List.filter_eq_nil_iff]
    intro i _ hi
    rw [decide_eq_true_eq] at hi
    subst hi
    cases i <;> simp [key] at hk
  rw [lastUnder, hnone]
  rfl

/-- Saves that each platform makes in the same order are the same saves. -/
theorem mem_iff_of_savesOf_eq {saves saves' : List Inbox}
    (h : ∀ name, savesOf name saves' = savesOf name saves) (i : Inbox) :
    i ∈ saves' ↔ i ∈ saves := by
  have hof : ∀ l : List Inbox, i ∈ savesOf i.name l ↔ i ∈ l := by
    intro l
    rw [savesOf, List.mem_filter]
    simp
  rw [← hof, h, hof]

/-- Saves that each platform makes in the same order leave the same under every key. -/
theorem lastUnder_congr {saves saves' : List Inbox}
    (h : ∀ name, savesOf name saves' = savesOf name saves) (k : String) :
    lastUnder saves' k = lastUnder saves k := by
  by_cases hk : k ∈ [TwitterInbox.key, MastodonInbox.key, BlueskyInbox.key]
  · have hinbox : ∃ i : Inbox, i.key = k := by
      simp only [List.mem_cons, List.not_mem_nil, or_false] at hk
      rcases hk with rfl | rfl | rfl
      · exact ⟨twitter {}, rfl⟩
      · exact ⟨mastodon { server := "" }, rfl⟩
      · exact ⟨bluesky {}, rfl⟩
    obtain ⟨i, rfl⟩ := hinbox
    rw [lastUnder_key, lastUnder_key, lastSaved, lastSaved, h]
  · rw [lastUnder_of_not_mem hk, lastUnder_of_not_mem hk]

/-- The value that stands for a platform after saves into a file: the last one that it saved, and
otherwise the one that stood there before. -/
def cursorAfter (old : Option (List (String × Json))) (saves : List Inbox) (i : Inbox) :
    Option Json :=
  (lastSaved i.name saves).or (Fields.get? (old.getD []) i.key)

/-- Saves of cursors into an absent file, or into one with an object of plain values, in any order
and number, all succeed. Afterwards each platform's key has the value that this platform saved last,
or the value it had before, and every other key has its old value. Saves that differ only in how
those of different platforms alternate leave the same fields in another order. An inbox opened
afterwards starts from its own platform's value. -/
theorem saves_keep_cursors (w : World) (old : Option (List (String × Json))) (saves : List Inbox)
    (hold : Holds w.files old) (hsaves : ∀ i ∈ saves, Storable i.lastSeen) :
    ∃ t new, saves.forM save w = (.ok (), { w with files := t }) ∧ Holds t new ∧
      (new = none ↔ old = none ∧ saves = []) ∧
      (∀ i : Inbox, Fields.get? (new.getD []) i.key = cursorAfter old saves i) ∧
      (∀ k, k ∉ [TwitterInbox.key, MastodonInbox.key, BlueskyInbox.key] →
        Fields.get? (new.getD []) k = Fields.get? (old.getD []) k) ∧
      (∀ saves', (∀ name, savesOf name saves' = savesOf name saves) →
        ∃ t' new', saves'.forM save w = (.ok (), { w with files := t' }) ∧ Holds t' new' ∧
          new.isSome = new'.isSome ∧ (new.getD []).Perm (new'.getD [])) ∧
      (∃ s, openTwitter { w with files := t } = (.ok s, { w with files := t }) ∧
        s.lastSeen = (cursorAfter old saves (twitter s)).getD .null) ∧
      (∃ s, openMastodon { w with files := t } = (.ok s, { w with files := t }) ∧
        s.lastSeen = (cursorAfter old saves (mastodon s)).getD .null) ∧
      (∃ s, openBluesky { w with files := t } = (.ok s, { w with files := t }) ∧
        s.lastSeen = (cursorAfter old saves (bluesky s)).getD .null) := by
  obtain ⟨t, new, hrun, hnew, hnone, hget⟩ := saves_of_holds saves hsaves hold
  have hown : ∀ i : Inbox, Fields.get? (new.getD []) i.key = cursorAfter old saves i := by
    intro i
    rw [hget, lastUnder_key, cursorAfter]
  refine ⟨t, new, hrun, hnew, hnone, hown, ?_, ?_, ?_, ?_, ?_⟩
  · intro k hk
    rw [hget, lastUnder_of_not_mem hk, Option.none_or]
  · intro saves' hsame
    have hmem := mem_iff_of_savesOf_eq hsame
    obtain ⟨t', new', hrun', hnew', hnone', hget'⟩ :=
      saves_of_holds saves' (fun i hi => hsaves i ((hmem i).mp hi)) hold
    refine ⟨t', new', hrun', hnew', ?_, ?_⟩
    · have hempty : new = none ↔ new' = none := by
        rw [hnone, hnone', List.eq_nil_iff_forall_not_mem, List.eq_nil_iff_forall_not_mem]
        simp only [hmem]
      rw [Bool.eq_iff_iff, Option.isSome_iff_ne_none, Option.isSome_iff_ne_none, Ne, Ne, hempty]
    · apply Fields.perm_of_get?_eq hnew.kept.nodup hnew'.kept.nodup
      intro k
      rw [hget, hget', lastUnder_congr hsame]
  · exact ⟨_, openTwitter_of_holds hnew, congrArg (·.getD .null) (hown (twitter _))⟩
  · exact ⟨_, openMastodon_of_holds hnew, congrArg (·.getD .null) (hown (mastodon _))⟩
  · exact ⟨_, openBluesky_of_holds hnew, congrArg (·.getD .null) (hown (bluesky _))⟩

/-- Fields with a cursor and a field of somebody else. -/
def sharedFields : List (String × Json) :=
  [("note", .arr [.int 1, .str "é"]), ("mastodon_last_id", .str "5")]

theorem kept_sharedFields : Kept sharedFields where
  plain := by
    have hsound : ∀ s ∈ ["note", "é", "mastodon_last_id", "5"], Text.Sound s := by
      intro s hs
      apply Text.sound_of_not_mem_mark
      revert s
      decide
    exact ⟨hsound _ (by simp), ⟨trivial, hsound _ (by simp), trivial⟩, hsound _ (by simp),
      hsound _ (by simp), trivial⟩
  within := by
    have hone : Storable (.int 1) :=
      storable_int (by decide : (1 : Int).natAbs < Number.tenPow 1) (by decide)
    exact ⟨by decide, ⟨hone.within _, trivial, trivial⟩, trivial, trivial⟩

/-- Two saves of one inbox with those of the other inboxes between them. -/
theorem saves_keep_cursors_alternating :
    let w : World := {
      clock := ⟨0⟩
      draws := ⟨[], 0⟩
      files := ({} : Files).put place (Json.obj sharedFields).encode }
    let saves := [twitter ⟨.int 12⟩, mastodon ⟨.null, ""⟩, bluesky ⟨.str "2025", .null⟩,
      twitter ⟨.int 13⟩]
    Holds w.files (some sharedFields) ∧ (∀ i ∈ saves, Storable i.lastSeen) ∧
      ∃ t new, saves.forM save w = (.ok (), { w with files := t }) ∧ Holds t new ∧
        Fields.get? (new.getD []) "twitter_last_id" = some (.int 13) ∧
        Fields.get? (new.getD []) "mastodon_last_id" = some .null ∧
        Fields.get? (new.getD []) "bluesky_last_time" = some (.str "2025") ∧
        Fields.get? (new.getD []) "note" = some (.arr [.int 1, .str "é"]) := by
  intro w saves
  have hold : Holds w.files (some sharedFields) := holds_put_encode kept_sharedFields rfl
  have hsaves : ∀ i ∈ saves, Storable i.lastSeen := by
    have hint : ∀ n : Int, n.natAbs < Number.tenPow 2 → Storable (.int n) :=
      fun n hn => storable_int hn (by decide)
    have htext : Storable (.str "2025") := Text.sound_of_not_mem_mark (by decide)
    simp only [saves, List.forall_mem_cons, lastSeen]
    exact ⟨hint 12 (by decide), trivial, htext, hint 13 (by decide), by simp⟩
  obtain ⟨t, new, hrun, hnew, -, hown, hother, -⟩ := saves_keep_cursors w _ saves hold hsaves
  exact ⟨hold, hsaves, t, new, hrun, hnew, hown (twitter {}), hown (mastodon ⟨.null, ""⟩),
    hown (bluesky {}), hother "note" (by decide)⟩

end Persona.Mention.Inbox
