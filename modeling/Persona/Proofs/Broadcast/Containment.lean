import Persona.Broadcast.Basic
import Persona.Proofs.Scribe.Announcing

/-!
# Failures of a platform

Posting to a platform ends with an answer in every world: whatever a platform or the environment
does is caught there and told. So posting to all platforms is posting to one after the other, and
comes to its end with one line for each.

Main statements:

* `postAll_eq_mapM`: the platforms have their turns in order;
* `Platform.post_returns`: each of them has an answer;
* `postAll_inTurn`: the lines are those of the platforms, each posted to in the world that the one
  before it left.
-/

namespace Persona

namespace Act

variable {α β : Type}

/-- An activity that has a result in every world. -/
def Returns (x : Act α) : Prop := ∀ w, ∃ a w', x w = (.ok a, w')

namespace Returns

theorem pure (a : α) : Returns (Pure.pure a : Act α) := fun w => ⟨a, w, rfl⟩

theorem bind {x : Act α} {f : α → Act β} (hx : Returns x) (hf : ∀ a, Returns (f a)) :
    Returns (x >>= f) := by
  intro w
  obtain ⟨a, w₁, hrun⟩ := hx w
  rw [bind_of_ok hrun]
  exact hf a w₁

theorem ite {c : Prop} [Decidable c] {x y : Act α} (hx : Returns x) (hy : Returns y) :
    Returns (if c then x else y) := by
  split
  · exact hx
  · exact hy

theorem getEnv (name : String) : Returns (Act.getEnv name) := fun w => ⟨_, w, rfl⟩

end Returns

/-- A run of an activity for each of some things in order, from the one world to the other: each
starts in the world that the one before it left, and all of them have results. -/
inductive InTurn (f : α → Act β) : List α → World → List β → World → Prop
  | nil (w : World) : InTurn f [] w [] w
  | cons {a : α} {as : List α} {b : β} {bs : List β} {w w₁ w' : World}
      (hrun : f a w = (.ok b, w₁)) (hrest : InTurn f as w₁ bs w') :
      InTurn f (a :: as) w (b :: bs) w'

namespace InTurn

variable {f : α → Act β} {as : List α} {bs : List β} {w w' : World}

theorem mapM (h : InTurn f as w bs w') : as.mapM f w = (.ok bs, w') := by
  induction h with
  | nil w => rfl
  | cons hrun _ ih =>
      rw [List.mapM_cons, bind_of_ok hrun, bind_of_ok ih]
      rfl

theorem exists_of_returns (hf : ∀ a, Returns (f a)) (as : List α) (w : World) :
    ∃ bs w', InTurn f as w bs w' := by
  induction as generalizing w with
  | nil => exact ⟨[], w, .nil w⟩
  | cons a as ih =>
      obtain ⟨b, w₁, hrun⟩ := hf a w
      obtain ⟨bs, w', hrest⟩ := ih w₁
      exact ⟨b :: bs, w', .cons hrun hrest⟩

end InTurn

theorem look_recoverable (r : Except Mismatch α) : (look r).Recoverable :=
  (Asking.look r).recoverable

theorem get_recoverable : (get : Act World).Recoverable := by
  intro w w' e h
  cases h

theorem getEnv_recoverable (name : String) : (getEnv name).Recoverable := by
  intro w w' e h
  cases h

theorem need_recoverable (library : String) : (need library).Recoverable := by
  refine .bind get_recoverable fun w => ?_
  split
  · exact .throw rfl
  · exact .pure _

end Act

namespace Twitter

theorem credentials_recoverable : Act.Recoverable credentials :=
  .bind (Act.getEnv_recoverable _) fun _ => .bind (Act.getEnv_recoverable _) fun _ =>
    .bind (Act.getEnv_recoverable _) fun _ => .bind (Act.getEnv_recoverable _) fun _ => .pure _

theorem connect_recoverable (credentials : Credentials) :
    Act.Recoverable (connect credentials) := by
  have hrecord : Act.Recoverable (Act.record (.twitterClient credentials)) := by
    intro w w' e h
    cases h
  refine .bind hrecord fun _ => .bind Act.get_recoverable fun w => ?_
  split
  · exact .throw rfl
  · exact .pure _

end Twitter

namespace Broadcast

open Act (InTurn Returns Recoverable)

/-! ## The answer of a platform -/

theorem orError_returns (label : String) {a : Act Json} (h : Recoverable a) :
    Returns (orError label a) :=
  h.exists_ok_of_recover fun _ w => ⟨_, w, rfl⟩

theorem addressOf_recoverable (label : String) (reply : Http.Reply) :
    Recoverable (addressOf label reply) := by
  unfold addressOf
  split
  · exact .bind (Act.Asking.body reply).recoverable fun _ => Act.look_recoverable _
  · exact .pure _

theorem postTwitter_returns (text : Json) : Returns (postTwitter text) :=
  orError_returns _ <|
    .bind (Act.need_recoverable _) fun _ => .bind Twitter.credentials_recoverable fun _ =>
    .bind (Twitter.connect_recoverable _) fun _ => .bind (Act.look_recoverable _) fun _ =>
    .bind (Scribe.post_recoverable _ _) fun _ => .pure _

theorem postMastodon_returns (text : Json) : Returns (postMastodon text) :=
  .bind (.bind (.getEnv _) fun _ => .pure _) fun _ => .bind (.getEnv _) fun _ =>
    .ite (.pure _) <| orError_returns _ <|
      .bind (Act.look_recoverable _) fun _ => .bind (Act.Asking.http _).recoverable fun _ =>
      addressOf_recoverable _ _

theorem postBluesky_returns (text : Json) : Returns (postBluesky text) := by
  have hauthorization (session : Json) : Recoverable (Bluesky.authorization session) :=
    .bind (Act.look_recoverable _) fun _ => .pure _
  have htimestamp : Recoverable Bluesky.timestamp := by
    intro w w' e h
    cases h
  refine .bind (.getEnv _) fun _ => .bind (.getEnv _) fun _ => .ite (.pure _) ?_
  refine orError_returns _ <|
    .bind (Act.Asking.http _).recoverable fun _ => .bind (Act.Asking.body _).recoverable fun _ =>
    .bind (.bind (hauthorization _) fun _ => .pure _) fun _ =>
    .bind (.bind (Act.look_recoverable _) fun _ => .pure _) fun _ =>
    .bind (Act.look_recoverable _) fun _ => .bind htimestamp fun _ =>
    .bind (Scribe.createPost_recoverable _ _) fun _ => .pure _

theorem postArticle_returns (title body tags : Json) : Returns (postArticle title body tags) :=
  .bind (.getEnv _) fun _ => .ite (.pure _) <| orError_returns _ <|
    .bind (Act.look_recoverable _) fun _ => .bind (Act.Asking.http _).recoverable fun _ =>
    addressOf_recoverable _ _

theorem postLinkedin_returns (text : Json) : Returns (postLinkedin text) :=
  .bind (.getEnv _) fun _ => .bind (.getEnv _) fun _ =>
    .ite (.pure _) <| orError_returns _ <|
      .bind (Act.look_recoverable _) fun _ => .bind (Act.Asking.http _).recoverable fun _ =>
      .pure _

/-! ## All platforms -/

inductive Platform where
  | x | mastodon | bluesky | devTo | linkedin

namespace Platform

def label : Platform → String
  | x => "X"
  | mastodon => "Mastodon"
  | bluesky => "Bluesky"
  | devTo => "Dev.to"
  | linkedin => "LinkedIn"

/-- Post content with a short text to the platform. -/
def post (fs : List (String × Json)) (short : Json) : Platform → Act Json
  | x => postTwitter short
  | mastodon => postMastodon short
  | bluesky => postBluesky short
  | devTo => postArticle ((Fields.get? fs "title").getD .null) ((Fields.get? fs "long").getD .null)
      defaultTags
  | linkedin => postLinkedin ((Fields.get? fs "linkedin").getD short)

/-- The line of the platform. -/
def tell (fs : List (String × Json)) (short : Json) (p : Platform) : Act String := do
  return p.label ++ ": " ++ (← p.post fs short).text

theorem post_returns (fs : List (String × Json)) (short : Json) (p : Platform) :
    Returns (p.post fs short) := by
  cases p with
  | x => exact postTwitter_returns _
  | mastodon => exact postMastodon_returns _
  | bluesky => exact postBluesky_returns _
  | devTo => exact postArticle_returns _ _ _
  | linkedin => exact postLinkedin_returns _

end Platform

/-- The platforms that content goes to; a long text needs a title. -/
def platforms (fs : List (String × Json)) : List Platform :=
  [.x, .mastodon, .bluesky] ++
    (if (Fields.get? fs "long").isSome && (Fields.get? fs "title").isSome then [.devTo] else []) ++
    [.linkedin]

theorem postLong_eq_mapM (fs : List (String × Json)) (short : Json) :
    postLong (.obj fs) =
      (if (Fields.get? fs "long").isSome && (Fields.get? fs "title").isSome then [Platform.devTo]
        else []).mapM (Platform.tell fs short) := by
  unfold postLong
  dsimp only
  cases hlong : Fields.get? fs "long" with
  | none => rfl
  | some long =>
      cases htitle : Fields.get? fs "title" with
      | none => rfl
      | some title =>
          have hpost : Platform.post fs short .devTo = postArticle title long defaultTags := by
            rw [Platform.post, hlong, htitle]
            rfl
          change _ = [Platform.devTo].mapM (Platform.tell fs short)
          simp only [Platform.tell, hpost, List.mapM_cons, List.mapM_nil, pure_bind, bind_assoc]
          rfl

theorem postAll_eq_mapM {fs : List (String × Json)} {short : Json}
    (hshort : Fields.get? fs "short" = some short) :
    postAll (.obj fs) = (platforms fs).mapM (Platform.tell fs short) := by
  have hfield : Json.field (.obj fs) "short" = .ok short := by rw [Json.field, hshort]
  simp only [postAll, platforms, hfield, postLong_eq_mapM fs short, Json.fieldOr, Act.look,
    List.mapM_append, List.mapM_cons, List.mapM_nil, Platform.tell, Platform.post, pure_bind,
    bind_assoc]
  rfl

/-- Content with a short text is told of by each platform in its turn. -/
theorem postAll_inTurn {fs : List (String × Json)} {short : Json}
    (hshort : Fields.get? fs "short" = some short) (w : World) :
    ∃ lines w', postAll (.obj fs) w = (.ok lines, w') ∧
      InTurn (Platform.tell fs short) (platforms fs) w lines w' := by
  have htell (p : Platform) : Returns (p.tell fs short) :=
    .bind (p.post_returns fs short) fun _ => .pure _
  obtain ⟨lines, w', hturns⟩ := InTurn.exists_of_returns htell (platforms fs) w
  exact ⟨lines, w', (congrFun (postAll_eq_mapM hshort) w).trans hturns.mapM, hturns⟩

end Broadcast

end Persona
