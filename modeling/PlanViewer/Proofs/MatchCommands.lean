import PlanViewer.CommandLine.Run
import PlanViewer.Proofs.CandidateArguments
import PlanViewer.Proofs.SessionRuns

/-!
# Commands that match

A run that asks for a match reads the settings and the patterns of a folder and changes nothing. The
candidates come in only at its end, when the list that has been read is asked about them
(`CommandLine.run_matchNode`). So whether a run answers at all does not depend on them, and what it
answers depends on them as the list does: made longer or added to they never turn a match into a
failure, and their order plays no part.
-/

namespace PlanViewer

open Step

/-! ## What a run matches with -/

/-- No node is custom without patterns, so there is no need to look for them first. -/
theorem CustomNodes.not_isEmpty_and_matchesNode (nodes : CustomNodes) (c : Candidates)
    (mode : MatchMode) :
    (!nodes.isEmpty && nodes.matchesNode c mode) = nodes.matchesNode c mode := by
  obtain ⟨_ | ⟨p, patterns⟩⟩ := nodes
  · cases mode <;> rfl
  · rfl

theorem Session.outcome_isCustomNode (s : Session) (now : Instant) (c : Candidates)
    (mode : Option MatchMode) :
    (isCustomNode now c mode).outcome s =
      ((s.store.get? now PrefKey.custom.name).map fun raw =>
        (CustomNodes.ofPreference raw).matchesNode c (mode.getD s.settings.matchMode), s) := by
  have hasked : (isCustomNode now c mode).outcome s =
      ((s.store.get? now PrefKey.custom.name).map fun raw =>
        !(CustomNodes.ofPreference raw).isEmpty &&
          (CustomNodes.ofPreference raw).matchesNode c (mode.getD s.settings.matchMode), s) := by
    rw [isCustomNode, outcome_bind (outcome_getThe s), onStore, outcome_onPart]
    rcases hget : s.store.get? now PrefKey.custom.name with e | raw
    · have hvalue : (Store.value? now .custom).outcome s.store = (.error e, s.store) :=
        congrArg (·, s.store) hget
      rw [isCustomNodeIn, customNodes, outcome_bind_of_error (outcome_bind_of_error hvalue _)]
      rfl
    · have hvalue : (Store.value? now .custom).outcome s.store = (.ok raw, s.store) :=
        congrArg (·, s.store) hget
      rw [isCustomNodeIn, customNodes, bind_assoc, outcome_bind hvalue]
      rfl
  simpa only [CustomNodes.not_isEmpty_and_matchesNode] using hasked

namespace CommandLine

/-- The list and the mode that a run matches with. -/
def matchingOf (env : Environment) (now : Instant) (folder : Option String)
    (mode : Option MatchMode) (disk : Disk) : Except PrefsError (CustomNodes × MatchMode) := do
  let path ← env.folder folder
  let s ← Session.start ⟨.file path, disk⟩ path
  (s.store.get? now PrefKey.custom.name).map fun raw =>
    (.ofPreference raw, mode.getD s.settings.matchMode)

/-- What a run leaves that asks for a match. -/
def matchOutcome : Except PrefsError Bool → Outcome
  | .ok answer => ⟨0, Screen.ofLines [if answer then "true" else "false"], ""⟩
  | .error e => ⟨failureCode, "", Screen.ofLines ["Error: " ++ e.message]⟩

variable {env : Environment} {now : Instant} {disk : Disk} {arguments more : List String}
  {folder : Option String} {c : Candidates} {mode : Option MatchMode}

theorem outcome_perform_matchNode (colored : Bool) (now : Instant) (c : Candidates)
    (mode : Option MatchMode) (s : Session) :
    (perform colored now (.matchNode c mode)).outcome s =
      ((s.store.get? now PrefKey.custom.name).map fun raw =>
        [if (CustomNodes.ofPreference raw).matchesNode c (mode.getD s.settings.matchMode)
          then "true" else "false"], s) := by
  have hasked := s.outcome_isCustomNode now c mode
  unfold perform
  rcases hget : s.store.get? now PrefKey.custom.name with e | raw
  · rw [hget] at hasked
    exact outcome_bind_of_error hasked _
  · rw [hget] at hasked
    exact outcome_bind hasked _

/-- A session that cannot be opened leaves the disk as it is. -/
theorem outcome_runInvocation_of_error {invocation : Invocation} {e : PrefsError}
    (hopened : (do
      let path ← env.folder invocation.folder
      Session.start ⟨.file path, disk⟩ path) = .error e) :
    (runInvocation env now invocation).outcome disk = (.error e, disk) := by
  simp only [runInvocation, Step.outcome, Step.ofOutcome, ExceptT.run, StateT.run, hopened]

theorem outcome_runInvocation {invocation : Invocation} {s : Session}
    (hopened : (do
      let path ← env.folder invocation.folder
      Session.start ⟨.file path, disk⟩ path) = .ok s) :
    (runInvocation env now invocation).outcome disk =
      (((perform env.wantsColor now invocation.request).outcome s).1,
        ((perform env.wantsColor now invocation.request).outcome s).2.store.disk) := by
  simp only [runInvocation, Step.outcome, Step.ofOutcome, ExceptT.run, StateT.run, hopened]

theorem outcome_runInvocation_matchNode (env : Environment) (now : Instant)
    (folder : Option String) (c : Candidates) (mode : Option MatchMode) (disk : Disk) :
    (runInvocation env now ⟨folder, .matchNode c mode⟩).outcome disk =
      ((matchingOf env now folder mode disk).map fun m =>
        [if m.1.matchesNode c m.2 then "true" else "false"], disk) := by
  unfold matchingOf
  rcases hopened : (do
      let path ← env.folder folder
      Session.start ⟨.file path, disk⟩ path) with e | s
  · rw [outcome_runInvocation_of_error hopened, ← bind_assoc, hopened]
    rfl
  · have hdisk : s.store.disk = disk := by
      obtain ⟨path, -, hstart⟩ := bind_eq_ok_iff.mp hopened
      obtain ⟨settings, -, rfl⟩ := Session.start_ok hstart
      rfl
    rw [outcome_runInvocation hopened, ← bind_assoc, hopened, outcome_perform_matchNode, hdisk]
    show ((s.store.get? now PrefKey.custom.name).map _, disk) =
      (((s.store.get? now PrefKey.custom.name).map _).map _, disk)
    rcases s.store.get? now PrefKey.custom.name with e | raw
    · rfl
    · rfl

/-- **What a run shows that asks for a match**: the answer of the list, once that has been read. -/
theorem run_matchNode (env : Environment) (now : Instant) (disk : Disk)
    (h : Invocation.read arguments = .ok ⟨folder, .matchNode c mode⟩) :
    run env now arguments disk =
      (matchOutcome ((matchingOf env now folder mode disk).map fun m => m.1.matchesNode c m.2),
        disk) := by
  unfold run
  rw [h]
  dsimp only
  rw [outcome_runInvocation_matchNode]
  rcases matchingOf env now folder mode disk with e | m
  · rfl
  · rfl

theorem output_matchOutcome_iff {answer : Except PrefsError Bool} :
    (matchOutcome answer).output = "true\n" ↔ answer = .ok true := by
  rcases answer with e | _ | _
  · have hnone : "" ≠ "true\n" := by decide
    exact ⟨fun h => absurd h hnone, fun h => by cases h⟩
  · have hfalse : (matchOutcome (.ok false)).output ≠ "true\n" := by decide
    exact ⟨fun h => absurd h hfalse, fun h => by cases h⟩
  · exact ⟨fun _ => rfl, fun _ => by decide⟩

/-- A run that shows a match shows it of every node that holds more. -/
theorem run_of_within {other : List String} {c' : Candidates} (hwithin : c.Within c')
    (h : Invocation.read arguments = .ok ⟨folder, .matchNode c mode⟩)
    (h' : Invocation.read other = .ok ⟨folder, .matchNode c' mode⟩)
    (hmatch : (run env now arguments disk).1.output = "true\n") :
    run env now other disk = run env now arguments disk := by
  rw [run_matchNode env now disk h] at hmatch ⊢
  rw [run_matchNode env now disk h']
  have htrue := output_matchOutcome_iff.mp hmatch
  rw [htrue]
  rcases hmatching : matchingOf env now folder mode disk with e | ⟨nodes, asked⟩
  · rw [hmatching] at htrue
    cases htrue
  · rw [hmatching] at htrue
    have hmore : nodes.matchesNode c' asked = true :=
      CustomNodes.matchesNode_of_within hwithin (Except.ok.inj htrue)
    show (matchOutcome (.ok (nodes.matchesNode c' asked)), disk) = _
    rw [hmore]

/-- A run that is given further candidates shows the match that it showed before, or it refuses a
fourth candidate before anything is done. -/
theorem run_append (h : Invocation.read arguments = .ok ⟨folder, .matchNode c mode⟩)
    (hmore : "--" ∈ arguments ∨ ∀ text ∈ more, IsValue text)
    (hmatch : (run env now arguments disk).1.output = "true\n") :
    run env now (arguments ++ more) disk = run env now arguments disk ∨
      ∃ found text, c = .ofList found ∧ 3 < found.length + more.length ∧
        run env now (arguments ++ more) disk =
          (outcomeOfStop env (.usage (.surplusValue text Argument.candidates.label)), disk) := by
  have hextended := Invocation.read_append h hmore
  rcases hread : Invocation.read (arguments ++ more) with stop | invocation
  · rw [hread] at hextended
    cases hextended with
    | surplus found text hc hlong =>
      refine Or.inr ⟨found, text, hc, hlong, ?_⟩
      unfold run
      rw [hread]
  · rw [hread] at hextended
    cases hextended with
    | added found hc =>
      have hwithin : c.Within (.ofList (found ++ more)) := by
        rw [hc]
        exact Candidates.within_ofList_append found more
      exact Or.inl (run_of_within hwithin h hread hmatch)

end CommandLine

namespace CustomNodes

open CommandLine

/-- **Matching is monotone and symmetric in the candidates.** Whatever the list and the mode, a
match stays a match when each candidate is replaced by a text that it is a part of, and no answer
changes when the candidates change places. So further candidates on the command line turn no match
into a failure: up to three of them a run that showed a match shows it again, and leaves the same
disk, wherever the other arguments stand; and a fourth one is refused. -/
theorem matchesNode_candidates_exact :
    (∀ (raw : String) (mode : MatchMode) (c c' : Candidates),
      c.first.toList <:+: c'.first.toList → c.second.toList <:+: c'.second.toList →
      c.third.toList <:+: c'.third.toList →
      (parse raw).matchesNode c mode = true → (parse raw).matchesNode c' mode = true) ∧
    (∀ (raw : String) (mode : MatchMode) (c c' : Candidates), c.toList.Perm c'.toList →
      (parse raw).matchesNode c mode = (parse raw).matchesNode c' mode) ∧
    (∀ env now disk (texts more : List String), texts ≠ [] → (texts ++ more).length ≤ 3 →
      (∀ text ∈ texts ++ more, IsValue text) →
      (run env now ("match" :: texts) disk).1.output = "true\n" →
      run env now ("match" :: (texts ++ more)) disk = run env now ("match" :: texts) disk) ∧
    ∀ env now disk (arguments more : List String) folder c mode,
      Invocation.read arguments = .ok ⟨folder, .matchNode c mode⟩ →
      ("--" ∈ arguments ∨ ∀ text ∈ more, IsValue text) →
      (run env now arguments disk).1.output = "true\n" →
      run env now (arguments ++ more) disk = run env now arguments disk ∨
        ∃ found text, c = .ofList found ∧ 3 < found.length + more.length ∧
          run env now (arguments ++ more) disk =
            (outcomeOfStop env (.usage (.surplusValue text "<CANDIDATES>...")), disk) := by
  refine ⟨?_, ?_, ?_, ?_⟩
  · intro raw mode c c' hfirst hsecond hthird
    exact matchesNode_of_within (Candidates.within_of_parts hfirst hsecond hthird)
  · intro raw mode c c' hperm
    exact matchesNode_of_perm hperm (parse raw) mode
  · intro env now disk texts more hne hlength hvalues hmatch
    have hread : Invocation.read ("match" :: texts) =
        .ok ⟨none, .matchNode (.ofList texts) none⟩ :=
      Invocation.read_candidates hne (by rw [List.length_append] at hlength; omega)
        fun t ht => hvalues t (List.mem_append_left _ ht)
    have hread' : Invocation.read ("match" :: (texts ++ more)) =
        .ok ⟨none, .matchNode (.ofList (texts ++ more)) none⟩ :=
      Invocation.read_candidates (by simp [hne]) hlength hvalues
    exact run_of_within (Candidates.within_ofList_append texts more) hread hread' hmatch
  · intro env now disk arguments more folder c mode hread hmore hmatch
    exact run_append hread hmore hmatch

/-- `b*a` in accumulate mode, with longer candidates and with candidates in another order; and `foo`
kept in a folder, with two further candidates, and with one that starts with a dash after `--`. -/
theorem matchesNode_candidates_exact_kept_list :
    let env : Environment := ⟨[("PLANPREFS_HOME", "/d")], [], none, false⟩
    let kept := "\x7b\"showCustomCookie\":\x7b\"value\":\"foo\"," ++
      "\"expires_at\":\"2000-01-01T00:00:00Z\"\x7d\x7d"
    let disk := (Disk.empty.put ["d"] .folder).put ["d", "prefs.json"] (.file kept.toUTF8)
    let arguments := ["--dir", "/d", "match", "xfoo", "--mode", "overwrite", "--"]
    ("a".toList <:+: "xa".toList ∧ "b".toList <:+: "by".toList ∧ "".toList <:+: "z".toList ∧
      ["a", "b", ""].Perm ["", "a", "b"] ∧ (∀ text ∈ ["xfoo", "", "z"], IsValue text) ∧
      Invocation.read arguments =
        .ok ⟨some "/d", .matchNode ⟨"xfoo", "", ""⟩ (some .overwrite)⟩ ∧ "--" ∈ arguments) ∧
    (parse "b*a").matchesNode ⟨"a", "b", ""⟩ .accumulate = true ∧
    (parse "b*a").matchesNode ⟨"xa", "by", "z"⟩ .accumulate = true ∧
    (parse "b*a").matchesNode ⟨"", "a", "b"⟩ .accumulate = true ∧
    (run env .earliest ["match", "xfoo"] disk).1.output = "true\n" ∧
    (run env .earliest ["match", "xfoo", "", "z"] disk).1.output = "true\n" ∧
    (run env .earliest arguments disk).1.output = "true\n" ∧
    (run env .earliest (arguments ++ ["-z"]) disk).1.output = "true\n" := by
  intro env kept disk arguments
  obtain ⟨hlonger, horder, hplain, hextended⟩ := matchesNode_candidates_exact
  have hfirst : "a".toList <:+: "xa".toList := by decide
  have hsecond : "b".toList <:+: "by".toList := by decide
  have hthird : "".toList <:+: "z".toList := by decide
  have hperm : ["a", "b", ""].Perm ["", "a", "b"] := by decide
  have hvalues : ∀ text ∈ ["xfoo", "", "z"], IsValue text := by simp [IsValue]
  have hread : Invocation.read arguments =
      .ok ⟨some "/d", .matchNode ⟨"xfoo", "", ""⟩ (some .overwrite)⟩ := by decide
  have hdashes : "--" ∈ arguments := by decide
  have hmatch : (parse "b*a").matchesNode ⟨"a", "b", ""⟩ .accumulate = true := by decide
  obtain ⟨hrun, hrun', hcode⟩ :
      (run env .earliest ["match", "xfoo"] disk).1.output = "true\n" ∧
        (run env .earliest arguments disk).1.output = "true\n" ∧
        (run env .earliest (arguments ++ ["-z"]) disk).1.code = 0 := by
    decide +kernel
  have hmore : run env .earliest ["match", "xfoo", "", "z"] disk = _ :=
    hplain env .earliest disk ["xfoo"] ["", "z"] (by decide) (by decide) hvalues hrun
  have hdashed : run env .earliest (arguments ++ ["-z"]) disk =
      run env .earliest arguments disk := by
    rcases hextended env .earliest disk arguments ["-z"] _ _ _ hread (Or.inl hdashes) hrun' with
      hsame | ⟨_, _, -, -, hrefused⟩
    · exact hsame
    · rw [hrefused] at hcode
      cases hcode
  refine ⟨⟨hfirst, hsecond, hthird, hperm, hvalues, hread, hdashes⟩, hmatch,
    hlonger "b*a" .accumulate ⟨"a", "b", ""⟩ ⟨"xa", "by", "z"⟩ hfirst hsecond hthird hmatch,
    ?_, hrun, ?_, hrun', ?_⟩
  · exact (horder "b*a" .accumulate ⟨"a", "b", ""⟩ ⟨"", "a", "b"⟩ hperm).symm.trans hmatch
  · rw [hmore]
    exact hrun
  · rw [hdashed]
    exact hrun'

end CustomNodes

end PlanViewer
