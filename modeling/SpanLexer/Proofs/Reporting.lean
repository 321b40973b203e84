import SpanLexer.CommandLine.Program
import SpanLexer.Proofs.Settling
import SpanLexer.Proofs.Tiling

/-!
# What the program reports

The program prints the tokens of its text.  It also reports the error that ended the scan, with
exit code 1, if text is left after the scan; a phone number that is rejected at the very end of the
text leaves none, and then the program ends as if nothing had happened.  A report that breaks off
breaks off the program.  How command lines are read is left open, but for what every way to read them
must make of the two ways to supply a text.

* `Report.TooWide`, `Report.breaksOff_iff` — a report breaks off if one of its fields is too wide.
* `Program.ReadsOptions` — what is asked of a way to read command lines;
  `Program.readsOptions_ofArguments` says that the one of the program does it.
* `Program.Supplies` — the two ways in which a command line supplies a text.
* `Program.fullAnswer` — the answer that reports every error.
* `Program.DropsError`, `Program.BreaksOff` — the scan ends in an error that the program does not
  report, or whose report breaks off.
* `Program.scanText_eq_fullAnswer_iff` — the program gives the full answer but in these two cases.
* `Program.run_eq_fullAnswer_iff` — the same for whole command lines, and whichever way the text is
  supplied, the answers differ in the name of the text only.
-/

namespace SpanLexer

namespace Report

/-- The line of a report that names the text. -/
def nameLine (name : Text) : Text := "-> ".toList ++ name ++ ['\n']

/-- A report names the text in one line, and all else in it comes from the error and the text. -/
theorem render_eq_nameLine (error : ScanError) (source : Text) :
    ∃ before after, ∀ name, render error source name = before ++ nameLine name ++ after := by
  cases hlocate : Text.locate source error.position.index with
  | none =>
      refine ⟨heading error.failure ++ ['\n'], [], fun name => ?_⟩
      simp [render, lines, hlocate, printed, nameLine]
  | some location =>
      refine ⟨heading error.failure ++ ['\n'], printed (excerpt location), fun name => ?_⟩
      simp [render, lines, hlocate, printed, nameLine]

/-- A field of the excerpt is too wide: the gutter beside the line, or the field of the caret. -/
def TooWide (location : LineLocation) : Prop :=
  widthLimit < gutterWidth location ∨ widthLimit < caretWidth location

theorem none_mem_excerpt_iff (location : LineLocation) :
    none ∈ excerpt location ↔ TooWide location := by
  have halign : ∀ fill width t, alignRight fill width t = none ↔ widthLimit < width := by
    intro fill width t
    rw [alignRight, ite_eq_right_iff, ← Nat.not_le]
    exact ⟨fun h hle => Option.some_ne_none _ (h hle), fun h hle => absurd hle h⟩
  rw [TooWide, ← halign ' ' (gutterWidth location) ['|'],
    ← halign '-' (caretWidth location) ['^'], ← gutter, excerpt]
  cases gutter location <;> cases alignRight '-' (caretWidth location) ['^'] <;> simp

/-- **A report breaks off** exactly if a field of the excerpt is too wide, by whatever name the text
goes. -/
theorem breaksOff_iff {error : ScanError} {source name : Text} :
    breaksOff error source name = true ↔
      ∃ location, source.locate error.position.index = some location ∧ TooWide location := by
  rw [breaksOff, List.contains_iff_mem, lines]
  cases source.locate error.position.index with
  | none => simp
  | some location => simp [none_mem_excerpt_iff]

end Report

namespace Program

/-- The options that ask for block comments, or not. -/
def blockOption (block : Bool) : List Text :=
  if block then ["--block-comments".toList] else []

/-- The rules with block comments, or the standard ones. -/
def rulesFor (block : Bool) : List Rule :=
  if block then Rule.withBlockComments else Rule.standard

/-- **What is asked of a way to read command lines.**  With the option for block comments or without
it, the argument behind the mark that ends the options is the text to scan, and the one behind the
option for a file is the path of the file, unless it is empty or looks like an option itself. -/
structure ReadsOptions (parse : List Text → Invocation) : Prop where
  argument : ∀ block s, ∃ options,
    parse (blockOption block ++ ["--".toList, s]) = .run options ∧
      options.blockComments = block ∧ options.input = some s
  file : ∀ block path, path ≠ [] → path.head? ≠ some '-' → ∃ options,
    parse (blockOption block ++ ["--file".toList, path]) = .run options ∧
      options.blockComments = block ∧ options.input = none ∧ options.file = some path

/-- A command line supplies a text: as an argument, which goes by the name `<input>`, or in a file
that holds the text in UTF-8 and goes by its path. -/
inductive Supplies (parse : List Text → Invocation) (read : Text → Except ReadError ByteArray)
    (s : Text) (block : Bool) (arguments : List Text) : Text → Prop
  | argument {options : Options} (hrun : parse arguments = .run options)
      (hblock : options.blockComments = block) (hinput : options.input = some s) :
      Supplies parse read s block arguments "<input>".toList
  | file {options : Options} {path : Text} (hrun : parse arguments = .run options)
      (hblock : options.blockComments = block) (hinput : options.input = none)
      (hfile : options.file = some path) (hread : read path = .ok s.utf8Encode) :
      Supplies parse read s block arguments path

/-- The answer that reports every error: the tokens and, if the scan ended in an error, the report
about it, with exit code 1 exactly then. -/
def fullAnswer (rules : List Rule) (s name : Text) : Answer :=
  let drained := (Cursor.ofText s).drain rules
  match (drained.cursor.scan rules).answer with
  | .failed error => ⟨1, listing drained.answer ++ Report.render error s name, none⟩
  | _ => ⟨0, listing drained.answer, none⟩

/-- The scan of a text rejects a phone number that ends with the text. -/
def DropsError (rules : List Rule) (s : Text) : Prop :=
  ∃ number length p,
    (((Cursor.ofText s).drain rules).cursor.scan rules).answer =
      .failed ⟨.phoneLength number length, p⟩ ∧ p.index + length = s.length

/-- The scan of a text ends in an error for whose report a field is too wide. -/
def BreaksOff (rules : List Rule) (s : Text) : Prop :=
  ∃ error location,
    (((Cursor.ofText s).drain rules).cursor.scan rules).answer = .failed error ∧
      s.locate error.position.index = some location ∧ Report.TooWide location

variable {rules : List Rule} {s name : Text}

/-- Text is left after a scan exactly if it ended in an error that the program does not drop. -/
theorem hasMore_drain_iff :
    ((Cursor.ofText s).drain rules).cursor.hasMore = true ↔
      (∃ error, (((Cursor.ofText s).drain rules).cursor.scan rules).answer = .failed error) ∧
        ¬ DropsError rules s := by
  obtain ⟨cut, -, hends⟩ := Cursor.exists_tiling_drain rules s
  rw [(Cursor.settled_drain rules (Cursor.ofText s)).cursor_eq] at hends
  have hsource := Cursor.source_drain rules (Cursor.ofText s)
  rw [Cursor.hasMore_iff, hsource]
  unfold DropsError
  generalize (((Cursor.ofText s).drain rules).cursor.scan rules).answer = answer at hends ⊢
  generalize ((Cursor.ofText s).drain rules).cursor = c at hends ⊢
  show c.position.index < s.length ↔ _
  cases answer with
  | token token => exact hends.elim
  | finished =>
      obtain ⟨hend, hindex⟩ := hends
      simp [hindex, hend]
  | failed error =>
      obtain ⟨failure, p⟩ := error
      cases failure with
      | unrecognised text =>
          obtain ⟨⟨hlt, -⟩, -, hindex⟩ := hends
          simp [hindex, hlt]
      | phoneLength number length =>
          -- The cursor stands behind the number: text is left unless the number ends with it.
          obtain ⟨hle, -, hp, hindex⟩ := hends
          simp only [Outcome.failed.injEq, ScanError.mk.injEq, Failure.phoneLength.injEq]
          constructor
          · rintro hlt
            refine ⟨⟨_, rfl⟩, ?_⟩
            rintro ⟨_, _, _, ⟨⟨rfl, rfl⟩, rfl⟩, hend⟩
            omega
          · rintro ⟨-, hreported⟩
            have hne : p.index + length ≠ s.length := fun hend =>
              hreported ⟨number, length, p, ⟨⟨rfl, rfl⟩, rfl⟩, hend⟩
            omega

/-- A rejected phone number at the end of the text is not reported. -/
theorem scanText_of_dropsError (h : DropsError rules s) :
    scanText rules s name = ⟨0, listing ((Cursor.ofText s).drain rules).answer, none⟩ := by
  have hnone : ((Cursor.ofText s).drain rules).cursor.hasMore = false := by
    rw [← Bool.not_eq_true, hasMore_drain_iff]
    exact fun hmore => hmore.2 h
  unfold scanText
  simp only [hnone, Bool.false_eq_true, if_false]

/-- Everything else is reported, and the exit code says whether the report breaks off. -/
theorem scanText_of_failed {error : ScanError}
    (hanswer : (((Cursor.ofText s).drain rules).cursor.scan rules).answer = .failed error)
    (h : ¬ DropsError rules s) :
    scanText rules s name =
      ⟨if Report.breaksOff error s name then brokenOffCode else 1,
        (fullAnswer rules s name).output, none⟩ := by
  have hmore := hasMore_drain_iff.2 ⟨⟨error, hanswer⟩, h⟩
  simp only [scanText, fullAnswer, hmore, if_true, hanswer]

/-- A report with a field that is too wide breaks off the program. -/
theorem scanText_of_breaksOff (hbreaks : BreaksOff rules s) (h : ¬ DropsError rules s) :
    scanText rules s name = ⟨brokenOffCode, (fullAnswer rules s name).output, none⟩ := by
  obtain ⟨error, location, hanswer, hwide⟩ := hbreaks
  rw [scanText_of_failed hanswer h, if_pos (Report.breaksOff_iff.2 ⟨location, hwide⟩)]

/-- Everything else is reported in full. -/
theorem scanText_of_not_breaksOff (hbreaks : ¬ BreaksOff rules s) (h : ¬ DropsError rules s) :
    scanText rules s name = fullAnswer rules s name := by
  cases hanswer : (((Cursor.ofText s).drain rules).cursor.scan rules).answer with
  | token token => simp only [scanText, fullAnswer, hanswer, ite_self]
  | finished => simp only [scanText, fullAnswer, hanswer, ite_self]
  | failed error =>
      have hfits : ¬ Report.breaksOff error s name = true := fun hbreak => by
        obtain ⟨location, hwide⟩ := Report.breaksOff_iff.1 hbreak
        exact hbreaks ⟨error, location, hanswer, hwide⟩
      rw [scanText_of_failed hanswer h, if_neg hfits]
      simp only [fullAnswer, hanswer]

/-- **A text is reported in full** unless its error is dropped or its report breaks off. -/
theorem scanText_eq_fullAnswer_iff :
    scanText rules s name = fullAnswer rules s name ↔ ¬ DropsError rules s ∧ ¬ BreaksOff rules s := by
  constructor
  · intro heq
    have hcode := congrArg Answer.exitCode heq
    -- Where an error is dropped or a report breaks off, the full answer has exit code 1.
    have hreported : ¬ DropsError rules s := by
      intro hdrops
      rw [scanText_of_dropsError hdrops] at hcode
      obtain ⟨number, length, p, hanswer, -⟩ := hdrops
      simp [fullAnswer, hanswer] at hcode
    refine ⟨hreported, fun hbreaks => ?_⟩
    rw [scanText_of_breaksOff hbreaks hreported] at hcode
    obtain ⟨error, location, hanswer, -⟩ := hbreaks
    simp [fullAnswer, hanswer, brokenOffCode] at hcode
  · rintro ⟨hreported, hfits⟩
    exact scanText_of_not_breaksOff hfits hreported

/-- The answer shows the name of the text in the line of a report, and nowhere else. -/
theorem scanText_name (rules : List Rule) (s : Text) :
    (∃ output, ∀ name, scanText rules s name = ⟨0, output, none⟩) ∨
      ∃ code before after, ∀ name,
        scanText rules s name = ⟨code, before ++ Report.nameLine name ++ after, none⟩ := by
  by_cases hdrops : DropsError rules s
  · exact Or.inl ⟨_, fun name => scanText_of_dropsError hdrops⟩
  · cases hanswer : (((Cursor.ofText s).drain rules).cursor.scan rules).answer with
    | token _ | finished =>
        refine Or.inl ⟨listing ((Cursor.ofText s).drain rules).answer, fun name => ?_⟩
        simp only [scanText, hanswer, ite_self]
    | failed error =>
        obtain ⟨before, after, hrender⟩ := Report.render_eq_nameLine error s
        refine Or.inr ⟨if Report.breaksOff error s [] then brokenOffCode else 1,
          listing ((Cursor.ofText s).drain rules).answer ++ before, after, fun name => ?_⟩
        have hbreaks : Report.breaksOff error s name = Report.breaksOff error s [] :=
          Bool.eq_iff_iff.2 (Report.breaksOff_iff.trans Report.breaksOff_iff.symm)
        rw [scanText_of_failed hanswer hdrops, hbreaks]
        simp only [fullAnswer, hanswer, hrender name, List.append_assoc]

section CommandLine

variable {parse : List Text → Invocation} {read : Text → Except ReadError ByteArray} {block : Bool}
  {arguments : List Text}

/-- However a text is supplied, the program scans it with the chosen rules. -/
theorem runWith_of_supplies (h : Supplies parse read s block arguments name) :
    runWith parse arguments read = scanText (rulesFor block) s name := by
  have hscan : ∀ options, parse arguments = .run options →
      options.blockComments = block → source options read = .ok (s, name) →
      runWith parse arguments read = scanText (rulesFor block) s name := by
    intro options hrun hblock hsource
    unfold runWith answer
    simp only [hrun, hsource]
    rw [← hblock]
    rfl
  cases h with
  | argument hrun hblock hinput =>
      refine hscan _ hrun hblock ?_
      simp only [source, hinput]
  | file hrun hblock hinput hfile hread =>
      refine hscan _ hrun hblock ?_
      have hdecoded : read name >>= decodeText = .ok s := by
        rw [hread]
        exact decodeText_utf8Encode s
      simp only [source, hinput, hfile, hdecoded]

/-- The options for block comments are read first. -/
theorem ofArguments_blockOption (block : Bool) (later : List Text) :
    Invocation.ofArguments (blockOption block ++ later) =
      Invocation.ofArgumentsFrom ⟨none, none, block, none⟩ none later := by
  cases block <;> rfl

/-- **The program reads command lines** as is asked of every way to read them. -/
theorem readsOptions_ofArguments : ReadsOptions Invocation.ofArguments where
  argument := by
    intro block s
    refine ⟨⟨some s, none, block, none⟩, ?_, rfl, rfl⟩
    rw [ofArguments_blockOption]
    rfl
  file := by
    intro block path hpath hdash
    have hoption : Argument.ofText "--file".toList = .valued .file none := by decide
    -- Only a text with a dash in front is anything else than a plain argument.
    have hplain : Argument.ofText path = .plain path := by
      unfold Argument.ofText
      split
      · exact absurd rfl hdash
      · exact absurd rfl hdash
      · exact absurd rfl hdash
      · rfl
    have hvalue : Options.setValue ⟨none, none, block, none⟩ path .file =
        some ⟨none, some path, block, none⟩ := by
      simp [Options.setValue, hpath]
    refine ⟨⟨none, some path, block, none⟩, ?_, rfl, rfl, rfl⟩
    rw [ofArguments_blockOption]
    simp only [Invocation.ofArgumentsFrom, hoption, hplain, hvalue]
    rfl

/-- **What the program reports.**  Given a text, in whichever way, the program prints its tokens,
reports the error that ended the scan, and ends with exit code 1 exactly if there is such an error,
but in two cases.  A phone number that is rejected and ends with the text is an error that it drops,
and its exit code is 0.  A report with a field that is too wide breaks off, with an exit code of its
own.  Between two ways to supply the text only the line with the name of the text differs, and every
text can be supplied in both ways.  So it is for every way to read command lines that does what is
asked of it. -/
theorem run_eq_fullAnswer_iff (hparse : ReadsOptions parse) (s : Text) (block : Bool) :
    (∀ read arguments name, Supplies parse read s block arguments name →
      (runWith parse arguments read = fullAnswer (rulesFor block) s name ↔
        ¬ DropsError (rulesFor block) s ∧ ¬ BreaksOff (rulesFor block) s) ∧
      (DropsError (rulesFor block) s → runWith parse arguments read =
        ⟨0, listing ((Cursor.ofText s).drain (rulesFor block)).answer, none⟩) ∧
      (BreaksOff (rulesFor block) s → ¬ DropsError (rulesFor block) s →
        runWith parse arguments read =
          ⟨brokenOffCode, (fullAnswer (rulesFor block) s name).output, none⟩)) ∧
    ((∃ output, ∀ read arguments name, Supplies parse read s block arguments name →
        runWith parse arguments read = ⟨0, output, none⟩) ∨
      ∃ code before after, ∀ read arguments name, Supplies parse read s block arguments name →
        runWith parse arguments read = ⟨code, before ++ Report.nameLine name ++ after, none⟩) ∧
    (∀ read, Supplies parse read s block (blockOption block ++ ["--".toList, s])
      "<input>".toList) ∧
    ∀ read path, path ≠ [] → path.head? ≠ some '-' → read path = .ok s.utf8Encode →
      Supplies parse read s block (blockOption block ++ ["--file".toList, path]) path := by
  refine ⟨fun read arguments name h => ?_, ?_, fun read => ?_,
    fun read path hpath hdash hread => ?_⟩
  · rw [runWith_of_supplies h]
    exact ⟨scanText_eq_fullAnswer_iff, scanText_of_dropsError, scanText_of_breaksOff⟩
  · -- The answer is a function of the name alone, which no way to supply the text looks into.
    refine (scanText_name (rulesFor block) s).imp ?_ ?_
    · rintro ⟨output, houtput⟩
      exact ⟨output, fun read arguments name h => by rw [runWith_of_supplies h, houtput]⟩
    · rintro ⟨code, before, after, houtput⟩
      exact ⟨code, before, after, fun read arguments name h => by
        rw [runWith_of_supplies h, houtput]⟩
  · obtain ⟨options, hrun, hblock, hinput⟩ := hparse.argument block s
    exact Supplies.argument hrun hblock hinput
  · obtain ⟨options, hrun, hblock, hinput, hfile⟩ := hparse.file block path hpath hdash
    exact Supplies.file hrun hblock hinput hfile hread

/-- A phone number that is too short, with text behind it: the program reports it. -/
theorem run_eq_fullAnswer_iff_inside :
    let s : Text := "+9665 7".toList
    let error : ScanError := ⟨.phoneLength "+9665".toList 5, ⟨0, 1⟩⟩
    let noFile : Text → Except ReadError ByteArray := fun _ => .error .notFound
    ReadsOptions Invocation.ofArguments ∧
      ¬ DropsError (rulesFor true) s ∧ ¬ BreaksOff (rulesFor true) s ∧
      run ["--block-comments".toList, "--".toList, s] noFile =
        ⟨1, Report.render error s "<input>".toList, none⟩ := by
  intro s error noFile
  obtain ⟨hanswer, -, hargument, -⟩ :=
    run_eq_fullAnswer_iff readsOptions_ofArguments s true
  have hfailed : (((Cursor.ofText s).drain (rulesFor true)).cursor.scan (rulesFor true)).answer =
      .failed error := by decide +kernel
  have hreported : ¬ DropsError (rulesFor true) s := by
    rintro ⟨number, length, p, hdropped, hend⟩
    obtain ⟨hnumber, rfl⟩ := ScanError.mk.inj (Outcome.failed.inj (hfailed.symm.trans hdropped))
    obtain ⟨-, rfl⟩ := Failure.phoneLength.inj hnumber
    exact absurd hend (by decide)
  have hfits : ¬ BreaksOff (rulesFor true) s := by
    rintro ⟨reported, location, hbroken, hwide⟩
    obtain rfl := Outcome.failed.inj (hfailed.symm.trans hbroken)
    have hbreaks : Report.breaksOff error s [] = true := Report.breaksOff_iff.2 ⟨location, hwide⟩
    exact absurd hbreaks (by decide +kernel)
  refine ⟨readsOptions_ofArguments, hreported, hfits, ?_⟩
  refine ((hanswer noFile _ _ (hargument noFile)).1.2 ⟨hreported, hfits⟩).trans ?_
  decide +kernel

/-- A phone number that is too short, and nothing else: the scan fails, and the program says nothing
of it. -/
theorem run_drops_short_number :
    Supplies Invocation.ofArguments (fun _ => .error .notFound) "+9665".toList false
      ["+9665".toList] "<input>".toList ∧
    run ["+9665".toList] (fun _ => .error .notFound) = ⟨0, [], none⟩ ∧
    fullAnswer (rulesFor false) "+9665".toList "<input>".toList =
      ⟨1, ("Error: InvalidPhoneNumber (Phone number length should be 13 characters, found 5)\n" ++
        "-> <input>\n  |\n1 | +9665\n  | ^\n").toList, none⟩ := by
  refine ⟨?_, ?_, ?_⟩
  · exact @Supplies.argument _ _ _ _ _ ⟨some "+9665".toList, none, false, none⟩ rfl rfl rfl
  · decide +kernel
  · decide +kernel

end CommandLine

end Program
end SpanLexer
