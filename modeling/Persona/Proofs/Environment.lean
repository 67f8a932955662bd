import Mathlib.Data.List.Induction
import Persona.Posting.Retry
import Persona.Proofs.Text.Searching
import Persona.Proofs.World.Running

/-!
# Settings that are written and loaded

A file of settings has a line for each of them, with or without quotes around the value, and any
remarks in between. Loading the file gives each key the value of its last line and leaves all other
variables alone.

Lines may end in any of the ways there are. Reading the file unifies some of these ends, and a line
end that is thereby lost stood before an empty line only.

Main statement: `written_settings_load`.
-/

namespace Persona

/-! ## Texts -/

namespace Text

/-- A text without the end of a line. -/
def OneLine (cs : List Char) : Prop := ∀ c ∈ cs, isLineBreak c = false

instance (cs : List Char) : Decidable (OneLine cs) :=
  decidable_of_iff (cs.all (!isLineBreak ·) = true) (by simp [OneLine])

theorem OneLine.append {cs ds : List Char} (h : OneLine cs) (h' : OneLine ds) :
    OneLine (cs ++ ds) := by
  intro c hc
  rcases List.mem_append.mp hc with hc | hc
  · exact h c hc
  · exact h' c hc

theorem OneLine.return_not_mem {cs : List Char} (h : OneLine cs) : '\r' ∉ cs :=
  fun hmem => absurd (h _ hmem) (by decide)

/-- What stands before the end of a line is that line. -/
theorem linesFrom_append_cons {cs : List Char} (h : OneLine cs) {c : Char}
    (hc : isLineBreak c = true) (hreturn : c ≠ '\r') (acc rest : List Char) :
    linesFrom acc (cs ++ c :: rest) = (acc.reverse ++ cs) :: linesFrom [] rest := by
  induction cs generalizing acc with
  | nil =>
      rw [List.nil_append, linesFrom, if_pos hc, List.append_nil]
      exact fun _ heq => absurd heq hreturn
  | cons d cs ih =>
      have hd : isLineBreak d = false := h d List.mem_cons_self
      rw [List.cons_append, linesFrom, if_neg (by simp [hd]),
        ih fun e he => h e (List.mem_cons_of_mem d he)]
      · simp
      · rintro _ rfl
        exact absurd hd (by decide)

/-- A last line needs no end; an empty one is none. -/
theorem linesFrom_of_oneLine {cs : List Char} (h : OneLine cs) (acc : List Char) :
    linesFrom acc cs = if acc.reverse ++ cs = [] then [] else [acc.reverse ++ cs] := by
  induction cs generalizing acc with
  | nil => simp [linesFrom]
  | cons d cs ih =>
      have hd : isLineBreak d = false := h d List.mem_cons_self
      rw [linesFrom, if_neg (by simp [hd]), ih fun e he => h e (List.mem_cons_of_mem d he)]
      · simp
      · rintro _ rfl
        exact absurd hd (by decide)

theorem unifyLineEnds_append {cs : List Char} (h : '\r' ∉ cs) (rest : List Char) :
    unifyLineEnds (cs ++ rest) = cs ++ unifyLineEnds rest := by
  induction cs with
  | nil => rfl
  | cons c cs ih =>
      rw [List.mem_cons, not_or] at h
      rw [List.cons_append, unifyLineEnds, ih h.2]
      · simp [Ne.symm h.1]
      · rintro _ rfl
        exact absurd rfl h.1

/-- What surrounds a text is trimmed, and the text itself is not. -/
theorem trimChars_surrounded {p : Char → Bool} {before cs after : List Char}
    (hbefore : ∀ c ∈ before, p c = true) (hafter : ∀ c ∈ after, p c = true)
    (hhead : ∀ c ∈ cs.head?, p c = false) (hlast : ∀ c ∈ cs.getLast?, p c = false) :
    trimChars p (before ++ (cs ++ after)) = cs := by
  have hafter' : ∀ c ∈ after.reverse, p c = true := fun c hc => hafter c (List.mem_reverse.mp hc)
  rw [trimChars, List.dropWhile_append_of_pos hbefore]
  cases cs with
  | nil =>
      rw [List.nil_append, List.dropWhile_eq_nil_iff.mpr hafter]
      rfl
  | cons c cs =>
      have hrest := trimChars_of_ends hhead hlast
      have hc : p c = false := hhead c rfl
      rw [trimChars, List.dropWhile_cons_of_neg (by simp [hc])] at hrest
      rw [List.cons_append, List.dropWhile_cons_of_neg (by simp [hc]), ← List.cons_append,
        List.reverse_append, List.dropWhile_append_of_pos hafter', hrest]

/-- The end of a line: a single character, or a carriage return with a line feed. -/
inductive LineEnd where
  | one (c : Char) (isBreak : isLineBreak c = true)
  | both

def LineEnd.chars : LineEnd → List Char
  | one c _ => [c]
  | both => ['\r', '\n']

end Text

namespace Fields

/-- Of the values put under a key, the last one stays. -/
theorem get?_foldl_put_reverse {κ α : Type} [DecidableEq κ] (pairs fields : List (κ × α))
    (key : κ) :
    get? (pairs.foldl (fun fields pair => put fields pair.1 pair.2) fields) key =
      (get? pairs.reverse key).or (get? fields key) := by
  induction pairs using List.reverseRecOn with
  | nil => simp
  | append_singleton pairs pair ih =>
      rw [List.foldl_append, List.foldl_cons, List.foldl_nil, get?_put, ih, List.reverse_append,
        List.reverse_singleton, List.singleton_append, get?_cons]
      split <;> rfl

end Fields

namespace Environment

open Text (LineEnd OneLine)

/-! ## Files of settings -/

/-- A key and a value that can be written on a line. -/
structure Setting where
  key : String
  value : String
  key_ne : key.toList ≠ []
  key_oneLine : OneLine key.toList
  value_oneLine : OneLine value.toList
  equals_not_mem : '=' ∉ key.toList
  not_remark : key.toList.head? ≠ some '#'
  key_nul : Act.hasNul key = false
  value_nul : Act.hasNul value = false
  unquoted_head : ∀ c ∈ value.toList.head?, isQuote c = false
  unquoted_last : ∀ c ∈ value.toList.getLast?, isQuote c = false

/-- What is put around a value. -/
inductive Quotes where
  | none
  | double
  | single

def Quotes.chars : Quotes → List Char
  | none => []
  | double => ['"']
  | single => ['\'']

/-- A line of the file. A remark starts with `#` or has no `=`. -/
inductive Line where
  | setting (s : Setting) (quotes : Quotes)
  | remark (text : List Char) (oneLine : OneLine text)
    (idle : text.head? = some '#' ∨ '=' ∉ text)

namespace Line

def chars : Line → List Char
  | setting s quotes =>
    s.key.toList ++ '=' :: (quotes.chars ++ (s.value.toList ++ quotes.chars))
  | remark text _ _ => text

/-- The key and the value that a line gives. -/
def pair? : Line → Option (String × String)
  | setting s _ => some (s.key, s.value)
  | remark .. => none

theorem oneLine_chars (l : Line) : OneLine l.chars := by
  cases l with
  | setting s quotes =>
      have hquotes : OneLine quotes.chars := by cases quotes <;> decide
      have hvalue := hquotes.append (s.value_oneLine.append hquotes)
      refine s.key_oneLine.append (List.forall_mem_cons.mpr ⟨by decide, hvalue⟩)
  | remark text oneLine _ => exact oneLine

end Line

/-- The text of a file of lines with their ends. The last line has none; it may be empty. -/
def written (lines : List (Line × LineEnd)) (last : Line) : String :=
  String.ofList (lines.flatMap (fun (line, lineEnd) => line.chars ++ lineEnd.chars) ++ last.chars)

/-- The keys and values of a file, in order. -/
def pairs (lines : List (Line × LineEnd)) (last : Line) : List (String × String) :=
  (lines.map (·.1) ++ [last]).filterMap Line.pair?

/-! ## Reading a line -/

theorem isQuote_of_mem (quotes : Quotes) : ∀ c ∈ quotes.chars, isQuote c = true := by
  cases quotes <;> simp [Quotes.chars, isQuote]

theorem setting?_setting (s : Setting) (quotes : Quotes) :
    setting? (String.ofList (Line.setting s quotes).chars) = some (s.key, s.value) := by
  have hstart : Text.startsWith (String.ofList (Line.setting s quotes).chars) "#" = false := by
    have hne := s.key_ne
    have hhead := s.not_remark
    simp only [Text.startsWith, Line.chars, String.toList_ofList]
    cases hkey : s.key.toList with
    | nil => exact absurd hkey hne
    | cons c cs =>
        rw [hkey] at hhead
        have hc : ¬ '#' = c := fun heq => hhead (by rw [heq]; rfl)
        simp [Text.dropPattern?, hc]
  have hcut : Text.splitOnce (String.ofList (Line.setting s quotes).chars) "=" =
      some (s.key, String.ofList (quotes.chars ++ (s.value.toList ++ quotes.chars))) := by
    have hequals := Text.cut?_append '=' [] (quotes.chars ++ (s.value.toList ++ quotes.chars))
    rw [List.singleton_append] at hequals
    simp only [Text.splitOnce, Line.chars, String.toList_ofList]
    change Option.map _ (Text.cut? ['='] _) = _
    rw [Text.cut?_append_of_not_mem s.equals_not_mem, hequals]
    simp
  rw [setting?, hstart, hcut]
  simp only [Bool.false_eq_true, if_false, Option.map_some, Text.trimWhere, String.toList_ofList]
  rw [Text.trimChars_surrounded (isQuote_of_mem quotes) (isQuote_of_mem quotes) s.unquoted_head
    s.unquoted_last, String.ofList_toList]

theorem setting?_remark {text : List Char} (h : text.head? = some '#' ∨ '=' ∉ text) :
    setting? (String.ofList text) = none := by
  unfold setting?
  rcases h with h | h
  · obtain ⟨rest, rfl⟩ := List.head?_eq_some_iff.mp h
    rw [if_pos]
    simp [Text.startsWith, Text.dropPattern?]
  · split
    · rfl
    · have hcut : Text.splitOnce (String.ofList text) "=" = none := by
        have hnone := Text.cut?_append_of_not_mem h [] []
        rw [List.append_nil] at hnone
        simp only [Text.splitOnce, String.toList_ofList]
        change Option.map _ (Text.cut? ['='] _) = _
        rw [hnone]
        rfl
      rw [hcut]
      rfl

theorem setting?_chars (l : Line) : setting? (String.ofList l.chars) = l.pair? := by
  cases l with
  | setting s quotes => exact setting?_setting s quotes
  | remark text _ idle => exact setting?_remark idle

/-! ## Reading the file -/

/-- The settings in a text, its line ends unified. -/
def settingsIn (cs : List Char) : List (String × String) :=
  settings (String.ofList (Text.unifyLineEnds cs))

theorem settings_append_cons {cs : List Char} (h : OneLine cs) {c : Char}
    (hc : Text.isLineBreak c = true) (hreturn : c ≠ '\r') (rest : List Char) :
    settings (String.ofList (cs ++ c :: rest)) =
      (setting? (String.ofList cs)).toList ++ settings (String.ofList rest) := by
  simp only [settings, Text.lines, String.toList_ofList,
    Text.linesFrom_append_cons h hc hreturn, List.reverse_nil, List.nil_append, List.map_cons]
  cases hline : setting? (String.ofList cs) <;> simp [hline]

/-- An empty line gives nothing. -/
theorem settings_lineFeed (rest : List Char) :
    settings (String.ofList ('\n' :: rest)) = settings (String.ofList rest) := by
  have hempty : setting? (String.ofList []) = none := setting?_remark (.inr List.not_mem_nil)
  have hline : OneLine [] := by simp [OneLine]
  have hrest := settings_append_cons hline (c := '\n') (by decide) (by decide) rest
  rwa [List.nil_append, hempty] at hrest

theorem settingsIn_append (l : Line) (lineEnd : LineEnd) (rest : List Char) :
    settingsIn (l.chars ++ (lineEnd.chars ++ rest)) = l.pair?.toList ++ settingsIn rest := by
  have hline := l.oneLine_chars
  unfold settingsIn
  rw [Text.unifyLineEnds_append hline.return_not_mem, ← setting?_chars]
  have hfeed (more : List Char) := settings_append_cons hline (c := '\n') (by decide)
    (by decide) more
  cases lineEnd with
  | both => exact hfeed _
  | one c hc =>
      by_cases hreturn : c = '\r'
      · subst hreturn
        cases rest with
        | nil => exact hfeed []
        | cons d rest =>
            by_cases hd : d = '\n'
            · -- the two ends become one, and an empty line is lost
              subst hd
              have hunify : Text.unifyLineEnds ('\n' :: rest) =
                  '\n' :: Text.unifyLineEnds rest := rfl
              rw [hunify, settings_lineFeed]
              exact hfeed _
            · have hunify : Text.unifyLineEnds ('\r' :: d :: rest) =
                  '\n' :: Text.unifyLineEnds (d :: rest) := by
                rw [Text.unifyLineEnds]
                · rfl
                · rintro _ - heq
                  exact hd (List.cons.inj heq).1
              simp only [LineEnd.chars, List.singleton_append]
              rw [hunify]
              exact hfeed _
      · have hother : '\r' ∉ [c] := by simpa using Ne.symm hreturn
        have hunify : Text.unifyLineEnds (c :: rest) = c :: Text.unifyLineEnds rest :=
          Text.unifyLineEnds_append hother rest
        simp only [LineEnd.chars, List.singleton_append]
        rw [hunify]
        exact settings_append_cons hline hc hreturn _

theorem settingsIn_last (l : Line) : settingsIn l.chars = l.pair?.toList := by
  have hline := l.oneLine_chars
  have hunify := Text.unifyLineEnds_append hline.return_not_mem []
  rw [List.append_nil, Text.unifyLineEnds, List.append_nil] at hunify
  rw [settingsIn, hunify, settings, Text.lines, String.toList_ofList,
    Text.linesFrom_of_oneLine hline, ← setting?_chars]
  by_cases hempty : l.chars = []
  · rw [hempty, setting?_remark (.inr List.not_mem_nil)]
    rfl
  · cases hsetting : setting? (String.ofList l.chars) <;> simp [hempty, hsetting]

/-- The settings of a file are those that were written, in order. -/
theorem settings_written (lines : List (Line × LineEnd)) (last : Line) :
    settings (String.ofList (Text.unifyLineEnds (written lines last).toList)) =
      pairs lines last := by
  rw [written, String.toList_ofList]
  change settingsIn _ = _
  induction lines with
  | nil =>
      rw [List.flatMap_nil, List.nil_append, settingsIn_last, pairs]
      cases hlast : last.pair? <;> simp [hlast]
  | cons line lines ih =>
      obtain ⟨line, lineEnd⟩ := line
      rw [List.flatMap_cons, List.append_assoc, List.append_assoc, settingsIn_append, ih, pairs,
        pairs]
      cases hline : line.pair? <;> simp [hline]

theorem allowed_of_mem_pairs {lines : List (Line × LineEnd)} {last : Line} :
    ∀ pair ∈ pairs lines last,
      Act.hasNul pair.1 = false ∧ Act.hasNul pair.2 = false ∧ pair.1.isEmpty = false := by
  intro pair hpair
  obtain ⟨line, -, hline⟩ := List.mem_filterMap.mp hpair
  cases line with
  | remark => cases hline
  | setting s quotes =>
      cases hline
      refine ⟨s.key_nul, s.value_nul, ?_⟩
      rw [Bool.eq_false_iff, Ne, String.isEmpty_iff]
      exact fun hempty => s.key_ne (congrArg String.toList hempty)

/-! ## Loading the file -/

theorem setEnv_forM {settings : List (String × String)}
    (h : ∀ pair ∈ settings,
      Act.hasNul pair.1 = false ∧ Act.hasNul pair.2 = false ∧ pair.1.isEmpty = false)
    (w : World) :
    (settings.forM fun (key, value) => Act.setEnv key value) w =
      (.ok (), { w with
        environment := settings.foldl (fun fields pair => Fields.put fields pair.1 pair.2)
          w.environment }) := by
  induction settings generalizing w with
  | nil => rfl
  | cons pair settings ih =>
      obtain ⟨hpair, hrest⟩ := List.forall_mem_cons.mp h
      obtain ⟨hkey, hvalue, hname⟩ := hpair
      have hset : Act.setEnv pair.1 pair.2 w =
          (.ok (), { w with environment := Fields.put w.environment pair.1 pair.2 }) := by
        simp only [Act.setEnv, hkey, hvalue, hname]
        rfl
      exact (Act.bind_of_ok hset).trans (ih hrest _)

theorem exists_of_read {t : Files} {p : Path} {text : String} (h : t.read p = .ok text) :
    t.exists? p = .ok true := by
  unfold Files.read at h
  unfold Files.exists?
  cases hplace : t.locate p with
  | error c =>
      rw [hplace] at h
      cases h
  | ok place =>
      rw [hplace] at h
      change t.readPlace place = .ok text at h
      unfold Files.readPlace at h
      simp only [Files.holds]
      cases htext : t.text? place with
      | none =>
          rw [htext] at h
          split at h <;> cases h
      | some s => simp

/-- The value that settings give to a key: that of its last line. -/
def lastValue? (settings : List (String × String)) (key : String) : Option String :=
  Fields.get? settings.reverse key

/-- Whatever settings and remarks a file holds, loading it changes the environment only: there, each
key of the file has the value of its last line, and every other variable is as it was. The settings
that are read for the queue of tweets are the same, with no others. -/
theorem written_settings_load (lines : List (Line × LineEnd)) (last : Line) (w : World)
    (hfile : w.files.read file = .ok (written lines last)) :
    (∃ environment, load w = (.ok (), { w with environment }) ∧
      ∀ key, Fields.get? environment key =
        (lastValue? (pairs lines last) key).or (Fields.get? w.environment key)) ∧
    (w.notInstalled.contains "tweepy" = false →
      ∃ settings, Posting.load w = (.ok settings, w) ∧
        ∀ key, Fields.get? settings key = lastValue? (pairs lines last) key) := by
  have hread := Act.readFile_of_ok hfile
  constructor
  · refine ⟨_, ?_, Fields.get?_foldl_put_reverse (pairs lines last) w.environment⟩
    rw [load, Act.bind_of_ok (Act.fileExists_of_ok (exists_of_read hfile))]
    simp only [if_true]
    rw [Act.bind_of_ok hread, settings_written, setEnv_forM allowed_of_mem_pairs]
  · intro htweepy
    have hneed : Act.need "tweepy" w = (.ok (), w) := by
      rw [Act.need_apply, htweepy]
      rfl
    refine ⟨_, ?_, fun key => (Fields.get?_foldl_put_reverse (pairs lines last) [] key).trans ?_⟩
    · rw [Posting.load, Act.bind_of_ok hneed, Act.bind_of_ok hread, settings_written]
      rfl
    · simp [lastValue?]

/-- A variable that is set twice, the second time with blanks and quotes inside. -/
def greeting : List (Line × LineEnd) :=
  [(.remark "# GREETING=none".toList (by decide) (.inl rfl), .one '\n' rfl),
   (.setting ⟨"GREETING", "hello", by decide, by decide, by decide, by decide, by decide, rfl, rfl,
      by simp [isQuote], by simp [isQuote]⟩ .none, .both),
   (.remark [] (by decide) (.inr List.not_mem_nil), .one '\r' rfl),
   (.setting ⟨"GREETING", "a=b, \"#\" c", by decide, by decide, by decide, by decide, by decide,
      rfl, rfl, by simp [isQuote], by simp [isQuote]⟩ .single, .one (Char.ofNat 0x2028) rfl),
   (.remark "export".toList (by decide) (.inr (by decide)), .one '\n' rfl)]

/-- An empty value in quotes, on a last line without an end. -/
def farewell : Line :=
  .setting ⟨"FAREWELL", "", by decide, by decide, by decide, by decide, by decide, rfl, rfl,
    by simp, by simp⟩ .double

/-- A world with a file of settings and a variable of which it says nothing. -/
def furnished : World where
  clock := ⟨0⟩
  draws := ⟨[], 0⟩
  environment := [("GREETING", "good morning"), ("LANGUAGE", "en")]
  files := { texts := [([".env"], "# GREETING=none\nGREETING=hello\r\n\rGREETING='a=b, \"#\" c'" ++
    String.singleton (Char.ofNat 0x2028) ++ "export\nFAREWELL=\"\"")] }

theorem written_settings_load_furnished :
    furnished.files.read file = .ok (written greeting farewell) ∧
    (∃ environment, load furnished = (.ok (), { furnished with environment }) ∧
      Fields.get? environment "GREETING" = some "a=b, \"#\" c" ∧
      Fields.get? environment "FAREWELL" = some "" ∧
      Fields.get? environment "LANGUAGE" = some "en") ∧
    ∃ settings, Posting.load furnished = (.ok settings, furnished) ∧
      Fields.get? settings "GREETING" = some "a=b, \"#\" c" ∧
      Fields.get? settings "LANGUAGE" = none := by
  have hfile : furnished.files.read file = .ok (written greeting farewell) := by rfl
  obtain ⟨⟨environment, hload, hget⟩, hqueue⟩ :=
    written_settings_load greeting farewell furnished hfile
  obtain ⟨settings, hsettings, hget'⟩ := hqueue rfl
  exact ⟨hfile, ⟨environment, hload, (hget _).trans rfl, (hget _).trans rfl, (hget _).trans rfl⟩,
    settings, hsettings, (hget' _).trans rfl, (hget' _).trans rfl⟩

end Environment

end Persona
