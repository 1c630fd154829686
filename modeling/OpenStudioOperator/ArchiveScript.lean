import OpenStudioOperator.Archival
import OpenStudioOperator.Foundation.ShellRules

/-!
# The archive script as the shell reads it

The ids and the bucket are any texts.  Whatever they are, the script assigns the
destination and calls `copy_check` once for each asset tree, and it ends with status 0
only if every tree was there, was copied and was checked.
-/

namespace OpenStudioOperator
namespace ArchiveScript

open Foundation.Shell

/-- The characters of a shell script. -/
def NoNul (s : String) : Prop := '\x00' ∉ s.toList

instance (s : String) : Decidable (NoNul s) := inferInstanceAs (Decidable (_ ∉ _))

/-!
## Quoted texts
-/

theorem plain_of_shellSafe {c : Char} (h : shellSafe c = true) : Plain c := by
  constructor
  · intro hmem
    have hall : (['\x00', '\n', ' ', '\t', '#', '\'', '"', '\\', '$', '\x60'].all
        fun d => !shellSafe d) = true := by decide +kernel
    have hunsafe := List.all_eq_true.mp hall c hmem
    rw [h] at hunsafe
    cases hunsafe
  · unfold Operator.ofChar
    split
    all_goals first
      | rfl
      | exact absurd h (by decide +kernel)

/-- The word that `shlex.quote` makes of a text. -/
def quoteWord (s : String) : Word := s.toList.map (.lit · (!s.toList.all shellSafe))

/-- The characters of a text between its quotes. -/
theorem run_quoted {cs : List Char} (hzero : '\x00' ∉ cs) (w : Word) :
    run (.single w)
        (cs.flatMap fun c => (if c = '\'' then "'\"'\"'" else c.toString).toList) =
      some ([], .single (w ++ cs.map (.lit · true))) := by
  induction cs generalizing w with
  | nil =>
      rw [List.map_nil, List.append_nil]
      rfl
  | cons c rest ih =>
      have hhead : run (.single w) (if c = '\'' then "'\"'\"'" else c.toString).toList =
          some ([], .single (w ++ [.lit c true])) := by
        by_cases hquote : c = '\''
        · rw [if_pos hquote, hquote]
          rfl
        · have hc : c ≠ '\x00' := fun h => hzero (h ▸ List.mem_cons_self)
          rw [if_neg hquote]
          simp only [Char.toString_eq_singleton, String.toList_singleton, run, step_single hquote hc]
          rfl
      rw [List.flatMap_cons, List.map_cons, List.append_cons]
      exact run_append hhead (ih (fun h => hzero (List.mem_cons_of_mem c h)) _)

/-- What `shlex.quote` makes of a text is read as the one word, after whatever has been
read of it. -/
theorem run_shlexQuote {s : String} (hzero : NoNul s) (current : Option Word) :
    run (.unquoted current) (shlexQuote s).toList =
      some ([], .unquoted (some (current.getD [] ++ quoteWord s))) := by
  have hopen : run (.unquoted current) ['\''] = some ([], .single (current.getD [])) := by
    cases current <;> rfl
  have hclose : forall w, run (.single w) ['\''] = some ([], .unquoted (some w)) := fun _ => rfl
  unfold shlexQuote quoteWord
  by_cases hempty : s.isEmpty = true
  · have hnil : s.toList = [] := String.toList_eq_nil_iff.mpr (String.isEmpty_iff.mp hempty)
    rw [if_pos hempty, hnil, List.map_nil, List.append_nil]
    exact run_append hopen (hclose _)
  rw [if_neg hempty]
  by_cases hsafe : s.toList.all shellSafe = true
  · rw [if_pos hsafe, hsafe]
    cases hchars : s.toList with
    | nil => exact absurd (String.isEmpty_iff.mpr (String.toList_eq_nil_iff.mp hchars)) hempty
    | cons c rest =>
        rw [hchars] at hsafe
        exact run_plain (fun d hd => plain_of_shellSafe (List.all_eq_true.mp hsafe d hd)) current
  · rw [if_neg hsafe, eq_false_of_ne_true hsafe, String.toList_append,
      String.toList_append, String.toList_join, List.flatMap_map]
    exact run_append (run_append hopen (run_quoted hzero _)) (hclose _)

/-- The word is the text: nothing in it is expanded. -/
theorem literal_quoteWord (s : String) : Literal (quoteWord s) s := by
  refine ⟨?_, fun ctx st => expand_lits s.toList _⟩
  unfold quoteWord
  cases hsafe : s.toList.all shellSafe with
  | false =>
      refine hasPattern_of_quoted fun c hc => ?_
      rcases List.mem_map.mp hc with ⟨d, _, heq⟩
      cases heq
  | true =>
      unfold hasPattern
      rw [Bool.and_eq_false_iff]
      right
      rw [List.any_eq_false]
      intro p hp
      rcases List.mem_map.mp hp with ⟨c, hc, heq⟩
      have hc' := List.all_eq_true.mp hsafe c hc
      have hall : (['*', '?', '[', '~'].all fun d => !shellSafe d) = true := by decide +kernel
      have hnot : c ∉ ['*', '?', '[', '~'] := by
        intro hmem
        have hunsafe := List.all_eq_true.mp hall c hmem
        rw [hc'] at hunsafe
        cases hunsafe
      simp only [List.mem_cons, List.not_mem_nil, or_false, not_or] at hnot
      rw [← heq]
      simp [hnot]

/-!
## The text
-/

def openingLines : List String := [
  "set -eu",
  "",
  "# Generated by openstudio-server-operator (issue #15, D09) — do not edit.",
  "# Copies one analysis's NFS asset trees with rclone, then verifies each",
  "# with `rclone check` (size + hash). ANY mismatch exits nonzero: a",
  "# Completed Job is the verified-upload gate."]

def functionLines : List String := [
  "",
  "copy_check() \x7b",
  "    src=\"$1\"",
  "    rel=\"$2\"",
  "    if [ ! -d \"$src\" ]; then",
  "        echo \"archival: ERROR: source directory missing on NFS: $src\" >&2",
  "        return 1",
  "    fi",
  "    echo \"archival: copy $src -> $dest/$rel\"",
  "    rclone copy \"$src\" \"$dest/$rel\"",
  "    echo \"archival: verify (size+hash) $src <=> $dest/$rel\"",
  "    rclone check \"$src\" \"$dest/$rel\"",
  "\x7d",
  ""]

def closingLines : List String := [
  "",
  "echo \"archival: all asset trees copied and verified (size+hash)\""]

def destRoot (analysisId bucket : String) : String := s!"{rcloneRemoteName}:{bucket}/{analysisId}"

def destLine (analysisId bucket : String) : String := "dest=" ++ shlexQuote (destRoot analysisId bucket)

def callLine (source : String × String) : String :=
  "copy_check " ++ shlexQuote source.1 ++ " " ++ shlexQuote source.2

/-- A line with its end. -/
def lineText (line : String) : List Char := line.toList ++ ['\n']

theorem toList_intercalate_lines (lines : List String) :
    (String.intercalate "\n" (lines ++ [""])).toList = lines.flatMap lineText := by
  rw [String.toList_intercalate]
  induction lines with
  | nil => rfl
  | cons line rest ih =>
      rw [List.flatMap_cons, ← ih]
      cases rest with
      | nil => simp [List.intercalate, List.intersperse, lineText]
      | cons line' rest' => simp [List.intercalate, List.intersperse, lineText]

theorem toList_archiveScript (analysisId bucket : String) (datapointIds : List String) :
    (archiveScript analysisId bucket datapointIds).toList =
      openingLines.flatMap lineText ++ (lineText (destLine analysisId bucket) ++
        (functionLines.flatMap lineText ++
          ((archiveSources analysisId datapointIds).flatMap (fun source => lineText (callLine source)) ++
            closingLines.flatMap lineText))) := by
  have htext : archiveScript analysisId bucket datapointIds = String.intercalate "\n"
      ((openingLines ++ destLine analysisId bucket :: functionLines) ++
        (archiveSources analysisId datapointIds).map callLine ++ (closingLines ++ [""])) := rfl
  rw [htext, ← List.append_assoc, toList_intercalate_lines]
  simp only [List.flatMap_append, List.flatMap_cons, List.flatMap_map, List.append_assoc]

/-!
## The commands
-/

/-- `set -eu`. -/
def setCommand : Command := .simple [] [bare "set", bare "-eu"] []

def destCommand (dest : Word) : Command := .simple [("dest", dest)] [] []

/-- `"$dest/$rel"`. -/
def target : Word := .var "dest" :: (quotedText "/" ++ [.var "rel"])

def guardCondition : List Command :=
  [.simple [] [bare "[", bare "!", bare "-d", [.var "src"], bare "]"] []]

def guardBody : List Command := [
  .simple []
    [bare "echo", quotedText "archival: ERROR: source directory missing on NFS: " ++ [.var "src"]]
    [(.greatAnd, bare "2")],
  .simple [] [bare "return", bare "1"] []]

/-- The body of `copy_check`. -/
def copyCheckBody : List Command := [
  .simple [("src", [.var "1"])] [] [],
  .simple [("rel", [.var "2"])] [] [],
  .ifThen guardCondition guardBody,
  .simple [] [bare "echo", quotedText "archival: copy " ++ .var "src" :: (quotedText " -> " ++ target)]
    [],
  .simple [] [bare "rclone", bare "copy", [.var "src"], target] [],
  .simple []
    [bare "echo",
      quotedText "archival: verify (size+hash) " ++ .var "src" :: (quotedText " <=> " ++ target)] [],
  .simple [] [bare "rclone", bare "check", [.var "src"], target] []]

def copyCheckDefinition : Command := .funDef "copy_check" copyCheckBody

def callCommand (src rel : Word) : Command := .simple [] [bare "copy_check", src, rel] []

def doneCommand : Command :=
  .simple []
    [bare "echo", quotedText "archival: all asset trees copied and verified (size+hash)"] []

/-!
## The reading
-/

def openingTokens : List Token :=
  [.word (bare "set"), .word (bare "-eu"), .newline, .newline, .newline, .newline, .newline, .newline]

def functionTokens : List Token := [
  .newline,
  .word (bare "copy_check"), .op .lparen, .op .rparen, .word (bare "\x7b"), .newline,
  .word (bare "src=" ++ [.var "1"]), .newline,
  .word (bare "rel=" ++ [.var "2"]), .newline,
  .word (bare "if"), .word (bare "["), .word (bare "!"), .word (bare "-d"), .word [.var "src"],
    .word (bare "]"), .op .semi, .word (bare "then"), .newline,
  .word (bare "echo"),
    .word (quotedText "archival: ERROR: source directory missing on NFS: " ++ [.var "src"]),
    .op .greatAnd, .word (bare "2"), .newline,
  .word (bare "return"), .word (bare "1"), .newline,
  .word (bare "fi"), .newline,
  .word (bare "echo"),
    .word (quotedText "archival: copy " ++ .var "src" :: (quotedText " -> " ++ target)), .newline,
  .word (bare "rclone"), .word (bare "copy"), .word [.var "src"], .word target, .newline,
  .word (bare "echo"),
    .word (quotedText "archival: verify (size+hash) " ++
      .var "src" :: (quotedText " <=> " ++ target)), .newline,
  .word (bare "rclone"), .word (bare "check"), .word [.var "src"], .word target, .newline,
  .word (bare "\x7d"), .newline, .newline]

def closingTokens : List Token := [
  .newline, .word (bare "echo"),
  .word (quotedText "archival: all asset trees copied and verified (size+hash)"), .newline]

def callTokens (source : String × String) : List Token :=
  [.word (bare "copy_check"), .word (quoteWord source.1), .word (quoteWord source.2), .newline]

theorem run_openingLines :
    run (.unquoted none) (openingLines.flatMap lineText) = some (openingTokens, .unquoted none) := by
  decide +kernel

theorem run_functionLines :
    run (.unquoted none) (functionLines.flatMap lineText) =
      some (functionTokens, .unquoted none) := by
  decide +kernel

theorem run_closingLines :
    run (.unquoted none) (closingLines.flatMap lineText) = some (closingTokens, .unquoted none) := by
  decide +kernel

theorem run_destLine {analysisId bucket : String} (hzero : NoNul (destRoot analysisId bucket)) :
    run (.unquoted none) (lineText (destLine analysisId bucket)) =
      some ([.word (bare "dest=" ++ quoteWord (destRoot analysisId bucket)), .newline],
        .unquoted none) := by
  have hname : run (.unquoted none) "dest=".toList = some ([], .unquoted (some (bare "dest="))) := by
    decide +kernel
  unfold lineText destLine
  rw [String.toList_append]
  exact run_append (run_append hname (run_shlexQuote hzero _)) rfl

theorem run_callLine {source : String × String} (hsrc : NoNul source.1) (hrel : NoNul source.2) :
    run (.unquoted none) (lineText (callLine source)) =
      some (callTokens source, .unquoted none) := by
  have hname : run (.unquoted none) "copy_check ".toList =
      some ([.word (bare "copy_check")], .unquoted none) := by
    decide +kernel
  have hblank : forall w, run (.unquoted (some w)) " ".toList = some ([.word w], .unquoted none) :=
    fun _ => rfl
  unfold lineText callLine
  simp only [String.toList_append]
  exact run_append (run_append (run_append (run_append hname (run_shlexQuote hsrc _)) (hblank _))
    (run_shlexQuote hrel _)) rfl

theorem parse_openingTokens :
    parseTokens (between []) openingTokens = some (between [setCommand]) := rfl

theorem parse_functionTokens (before : List Command) :
    parseTokens (between before) functionTokens =
      some (between (before ++ [copyCheckDefinition])) := rfl

theorem parse_closingTokens (before : List Command) :
    parseTokens (between before) closingTokens = some (between (before ++ [doneCommand])) := rfl

theorem parse_callTokens (source : String × String) (before : List Command) :
    parseTokens (between before) (callTokens source) =
      some (between (before ++ [callCommand (quoteWord source.1) (quoteWord source.2)])) := rfl

theorem parse_destTokens (dest : Word) (before : List Command) :
    parseTokens (between before) [.word (bare "dest=" ++ dest), .newline] =
      some (between (before ++ [destCommand dest])) := by
  have hbegin : parseToken (between before) (.word (bare "dest=" ++ dest)) =
      some { between before with expecting := .more { assignments := [("dest", dest)] } } := by
    simp only [parseToken, between, beginCommand, bareText_bare_append]
    -- no reserved word begins with the name and `=`
    cases bareText dest with
    | none => rfl
    | some rest => rfl
  unfold parseTokens
  rw [hbegin]
  rfl

/-!
## Asset trees
-/

/-- The asset trees of an analysis and of its datapoints. -/
def assetTrees (analysisId : String) (datapointIds : List String) : List String :=
  ("analyses/" ++ analysisId) :: datapointIds.map ("data_points/" ++ ·)

/-- The directory of a tree. -/
def treePath (tree : String) : String := nfsMountPath ++ "/" ++ assetRoot ++ "/" ++ tree

theorem archiveSources_eq (analysisId : String) (datapointIds : List String) :
    archiveSources analysisId datapointIds =
      (assetTrees analysisId datapointIds).map fun tree => (treePath tree, tree) := by
  have hpath : forall kind id : String,
      nfsMountPath ++ "/" ++ assetRoot ++ ("/" ++ kind) ++ id = treePath (kind ++ id) := by
    intro kind id
    simp only [treePath, String.append_assoc]
  unfold archiveSources assetTrees
  rw [List.map_cons, List.map_map]
  exact congrArg₂ List.cons (Prod.ext (hpath "analyses/" analysisId) rfl)
    (List.map_congr_left fun id _ => Prod.ext (hpath "data_points/" id) rfl)

theorem noNul_append {s t : String} : NoNul (s ++ t) <-> NoNul s ∧ NoNul t := by
  unfold NoNul
  rw [String.toList_append, List.mem_append, not_or]

theorem noNul_destRoot {analysisId bucket : String} (hid : NoNul analysisId)
    (hbucket : NoNul bucket) : NoNul (destRoot analysisId bucket) := by
  have hremote : NoNul (rcloneRemoteName ++ ":") := by decide +kernel
  have hslash : NoNul "/" := by decide +kernel
  exact noNul_append.mpr ⟨noNul_append.mpr ⟨noNul_append.mpr ⟨hremote, hbucket⟩, hslash⟩, hid⟩

theorem noNul_assetTrees {analysisId : String} {datapointIds : List String}
    (hid : NoNul analysisId) (hids : forall id, id ∈ datapointIds -> NoNul id) {tree : String}
    (h : tree ∈ assetTrees analysisId datapointIds) : NoNul tree := by
  have hanalyses : NoNul "analyses/" := by decide +kernel
  have hdatapoints : NoNul "data_points/" := by decide +kernel
  rcases List.mem_cons.mp h with heq | hmem
  · rw [heq]
    exact noNul_append.mpr ⟨hanalyses, hid⟩
  · rcases List.mem_map.mp hmem with ⟨id, hid', heq⟩
    rw [← heq]
    exact noNul_append.mpr ⟨hdatapoints, hids id hid'⟩

theorem noNul_treePath {tree : String} (h : NoNul tree) : NoNul (treePath tree) := by
  have hroot : NoNul (nfsMountPath ++ "/" ++ assetRoot ++ "/") := by decide +kernel
  exact noNul_append.mpr ⟨hroot, h⟩

/-- The call for a tree. -/
def treeCommand (tree : String) : Command :=
  callCommand (quoteWord (treePath tree)) (quoteWord tree)

/-- The commands of the script. -/
def scriptCommands (analysisId bucket : String) (datapointIds : List String) : List Command :=
  setCommand :: destCommand (quoteWord (destRoot analysisId bucket)) :: copyCheckDefinition ::
    ((assetTrees analysisId datapointIds).map treeCommand ++ [doneCommand])

theorem parse_archiveScript {analysisId bucket : String} {datapointIds : List String}
    (hid : NoNul analysisId) (hbucket : NoNul bucket)
    (hids : forall id, id ∈ datapointIds -> NoNul id) :
    parse (archiveScript analysisId bucket datapointIds) =
      some (scriptCommands analysisId bucket datapointIds) := by
  have hcalls : run (.unquoted none)
      ((archiveSources analysisId datapointIds).flatMap fun source => lineText (callLine source)) =
      some ((archiveSources analysisId datapointIds).flatMap callTokens, .unquoted none) := by
    refine run_flatMap fun source hsource => ?_
    rw [archiveSources_eq] at hsource
    rcases List.mem_map.mp hsource with ⟨tree, htree, heq⟩
    have hzero := noNul_assetTrees hid hids htree
    rw [← heq]
    exact run_callLine (noNul_treePath hzero) hzero
  have hlex := run_append run_openingLines (run_append (run_destLine (noNul_destRoot hid hbucket))
    (run_append run_functionLines (run_append hcalls run_closingLines)))
  rw [← toList_archiveScript] at hlex
  have hparse := parseTokens_append parse_openingTokens
    (parseTokens_append (parse_destTokens (quoteWord (destRoot analysisId bucket)) _)
      (parseTokens_append (parse_functionTokens _)
        (parseTokens_append
          (parseTokens_flatMap (fun source (_ : source ∈ archiveSources analysisId datapointIds) =>
            parse_callTokens source) _)
          (parse_closingTokens _))))
  have hmap : (archiveSources analysisId datapointIds).map
      (fun source => callCommand (quoteWord source.1) (quoteWord source.2)) =
      (assetTrees analysisId datapointIds).map treeCommand := by
    rw [archiveSources_eq, List.map_map]
    rfl
  unfold parse lex
  rw [hlex]
  simp only [finish, Option.map_some, wordToken, List.append_nil]
  show (parseTokens (between []) _).bind parseEnd = _
  rw [hparse, hmap]
  rfl

/-!
## The run of `copy_check`
-/

/-- The events of a tree that was there, was copied and was checked. -/
def verified (dest tree : String) : List Event := [
  .tested (treePath tree) true,
  .ran ["echo", "archival: copy " ++ treePath tree ++ " -> " ++ dest ++ "/" ++ tree] [] 0,
  .ran ["rclone", "copy", treePath tree, dest ++ "/" ++ tree] [] 0,
  .ran ["echo", "archival: verify (size+hash) " ++ treePath tree ++ " <=> " ++ dest ++ "/" ++ tree]
    [] 0,
  .ran ["rclone", "check", treePath tree, dest ++ "/" ++ tree] [] 0]

/-- The state before and after each call. -/
structure Ready (st : ShellState) (dest : String) : Prop where
  errexit : st.errexit = true
  functions : st.functions = [("copy_check", copyCheckBody)]
  dest : st.vars.lookup "dest" = some dest

/-- The state within a call. -/
structure Called (st : ShellState) (dest src rel : String) : Prop extends Ready st dest where
  src : st.vars.lookup "src" = some src
  rel : st.vars.lookup "rel" = some rel

section CopyCheck

variable {call : Context -> List Command -> ShellState -> Execution} {world : World}
variable {ctx : Context} {st : ShellState} {dest src rel : String}

theorem Called.log (h : Called st dest src rel) (trace : List Event) :
    Called { st with trace := trace } dest src rel :=
  ⟨⟨h.errexit, h.functions, h.dest⟩, h.src, h.rel⟩

theorem Ready.utility (h : Ready st dest) {name : String} (hmodelled : name ∉ unmodelled)
    (hbuiltin : name ∉ ["set", "return", "["]) (hname : name ≠ "copy_check") : Utility st name := by
  refine ⟨hmodelled, hbuiltin, ?_⟩
  rw [h.functions, List.lookup_cons, beq_eq_false_iff_ne.mpr hname]
  rfl

theorem Called.expand_src (h : Called st dest src rel) (w : Word) :
    expand ctx st (.var "src" :: w) = (expand ctx st w).map (src.toList ++ ·) := by
  have hsrc : valueOf ctx st "src" = some src := h.src
  exact expand_var_cons hsrc w

theorem Called.expand_target (h : Called st dest src rel) :
    expand ctx st target = some (dest ++ "/" ++ rel).toList := by
  have hdest : valueOf ctx st "dest" = some dest := h.dest
  have hrel : valueOf ctx st "rel" = some rel := h.rel
  unfold target
  rw [expand_var_cons hdest, expand_quotedText_append, expand_var_cons hrel]
  simp [expand]

theorem onSuccess_rclone (h : Called st dest src rel) (hignored : ctx.ignored = false)
    {verb : String} (hpattern : hasPattern (bare verb) = false) :
    OnSuccess { st with trace := st.trace ++ [.ran ["rclone", verb, src, dest ++ "/" ++ rel] [] 0] }
      (exec call world ctx (.simple [] [bare "rclone", bare verb, [.var "src"], target] []) st) := by
  refine onSuccess_utility h.errexit hignored ?_ ?_ (h.utility (by decide +kernel)
    (by decide +kernel) (by decide +kernel))
  · rw [List.any_cons, List.any_cons, hpattern]
    rfl
  · simp [expandAll, h.expand_src, h.expand_target, String.append_assoc]

theorem onSuccess_echo (h : Called st dest src rel) (hignored : ctx.ignored = false)
    (before between : String) :
    OnSuccess
      { st with trace := st.trace ++
        [.ran ["echo", before ++ src ++ between ++ dest ++ "/" ++ rel] [] 0] }
      (exec call world ctx (.simple []
        [bare "echo", quotedText before ++ .var "src" :: (quotedText between ++ target)] []) st) := by
  have hquoted : hasPattern (quotedText before ++ .var "src" :: (quotedText between ++ target)) =
      false :=
    hasPattern_of_quoted fun c => by simp [target]
  refine onSuccess_utility h.errexit hignored ?_ ?_ (h.utility (by decide +kernel)
    (by decide +kernel) (by decide +kernel))
  · rw [List.any_cons, List.any_cons, hquoted]
    rfl
  · simp [expandAll, h.expand_src, h.expand_target, String.append_assoc]

/-- The test of the source directory, which fails when the directory is there. -/
theorem exec_guardCondition (h : Called st dest src rel) :
    execList call world { ctx with ignored := true } 0 guardCondition st =
      some (.next (if world.isDir st.trace src then 1 else 0),
        { st with trace := st.trace ++ [.tested src (world.isDir st.trace src)] }) := by
  have hwords : expandAll { ctx with ignored := true } st
      [bare "[", bare "!", bare "-d", [.var "src"], bare "]"] = some ["[", "!", "-d", src, "]"] := by
    simp [expandAll, h.expand_src]
  have htest : st.functions.lookup "[" = none := by
    rw [h.functions]
    rfl
  unfold guardCondition execList
  rw [exec_words rfl hwords, invoke_test htest]
  simp [builtinTest, completed, execList]

/-- A missing source directory ends the call with status 1. -/
theorem onSuccess_guardBody (h : Called st dest src rel) (hignored : ctx.ignored = false)
    (hfunction : ctx.inFunction = true) (st' : ShellState) :
    OnSuccess st' (execList call world ctx 0 guardBody st) := by
  have hecho : expandAll ctx st [bare "echo",
      quotedText "archival: ERROR: source directory missing on NFS: " ++ [.var "src"]] =
      some ["echo", "archival: ERROR: source directory missing on NFS: " ++ src] := by
    simp only [expandAll, expand_bare, expand_quotedText_append, h.expand_src, expand_nil,
      Option.map_some, List.append_nil, String.ofList_append, String.ofList_toList]
  have htarget : expandAll ctx st ([(Operator.greatAnd, bare "2")].map Prod.snd) = some ["2"] := by
    simp [expandAll]
  have hutility : Utility st "echo" :=
    h.utility (by decide +kernel) (by decide +kernel) (by decide +kernel)
  have hreturn : forall st, expandAll ctx st [bare "return", bare "1"] = some ["return", "1"] := by
    intro st
    simp [expandAll]
  have hone : number? "1".toList = some 1 := by decide +kernel
  have hfirst : OnSuccess
      { st with trace := st.trace ++
        [.ran ["echo", "archival: ERROR: source directory missing on NFS: " ++ src]
          [(.greatAnd, "2")] 0] }
      (exec call world ctx (.simple []
        [bare "echo",
          quotedText "archival: ERROR: source directory missing on NFS: " ++ [.var "src"]]
        [(.greatAnd, bare "2")]) st) := by
    rw [exec_simple rfl hecho htarget, invoke_of_utility hutility]
    exact onSuccess_external h.errexit hignored _ _
  refine onSuccess_cons hfirst ?_
  unfold execList
  rw [exec_words rfl (hreturn _), invoke_return]
  simp only [builtinReturn, hfunction, hone, if_true, Option.map_some]
  exact .returned (by decide) h.errexit

/-- The state after the call for a tree. -/
def afterCall (st : ShellState) (dest tree : String) : ShellState :=
  { st with
    vars := ("rel", tree) :: ("src", treePath tree) :: st.vars
    trace := st.trace ++ verified dest tree }

theorem onSuccess_guard (h : Called st dest src rel) (hignored : ctx.ignored = false)
    (hfunction : ctx.inFunction = true) :
    OnSuccess { st with trace := st.trace ++ [.tested src true] }
      (exec call world ctx (.ifThen guardCondition guardBody) st) := by
  refine onSuccess_ifThen (exec_guardCondition h)
    (fun _ => onSuccess_guardBody (h.log _) hignored hfunction _) fun hstatus => ?_
  cases hdir : world.isDir st.trace src with
  | true => rfl
  | false =>
      rw [hdir] at hstatus
      exact absurd rfl hstatus

theorem onSuccess_copyCheckBody (h : Ready st dest) (tree : String) :
    OnSuccess (afterCall st dest tree)
      (execList call world { inFunction := true, args := [treePath tree, tree] } 0 copyCheckBody st) := by
  have hcalled : forall trace, Called
      { st with vars := ("rel", tree) :: ("src", treePath tree) :: st.vars, trace := trace }
      dest (treePath tree) tree :=
    fun trace => ⟨⟨h.errexit, h.functions, h.dest⟩, rfl, rfl⟩
  have hstate : afterCall st dest tree =
      { st with
        vars := ("rel", tree) :: ("src", treePath tree) :: st.vars
        trace := st.trace ++ [.tested (treePath tree) true] ++
          [.ran ["echo", "archival: copy " ++ treePath tree ++ " -> " ++ dest ++ "/" ++ tree] [] 0] ++
          [.ran ["rclone", "copy", treePath tree, dest ++ "/" ++ tree] [] 0] ++
          [.ran ["echo", "archival: verify (size+hash) " ++ treePath tree ++ " <=> " ++ dest ++ "/"
            ++ tree] [] 0] ++
          [.ran ["rclone", "check", treePath tree, dest ++ "/" ++ tree] [] 0] } := by
    simp [afterCall, verified]
  rw [hstate]
  exact onSuccess_cons (onSuccess_assign rfl (expand_var rfl))
    (onSuccess_cons (onSuccess_assign rfl (expand_var rfl))
    (onSuccess_cons (onSuccess_guard (hcalled _) rfl rfl)
    (onSuccess_cons (onSuccess_echo (hcalled _) rfl "archival: copy " " -> ")
    (onSuccess_cons (onSuccess_rclone (hcalled _) rfl rfl)
    (onSuccess_cons (onSuccess_echo (hcalled _) rfl "archival: verify (size+hash) " " <=> ")
    (onSuccess_cons (onSuccess_rclone (hcalled _) rfl rfl) onSuccess_nil))))))

theorem Ready.afterCall (h : Ready st dest) (tree : String) :
    Ready (afterCall st dest tree) dest :=
  ⟨h.errexit, h.functions, h.dest⟩

/-- The call for a tree; its arguments are the two texts. -/
theorem onSuccess_treeCommand (h : Ready st dest) (depth : Nat) (tree : String) :
    OnSuccess (afterCall st dest tree)
      (exec (callAt world (depth + 1)) world {} (treeCommand tree) st) := by
  have hsrc := literal_quoteWord (treePath tree)
  have hrel := literal_quoteWord tree
  have hwords : expandAll {} st [bare "copy_check", quoteWord (treePath tree), quoteWord tree] =
      some ["copy_check", treePath tree, tree] := by
    simp only [expandAll, expand_bare, hsrc.2, hrel.2, Option.map_some, String.ofList_toList]
  have hpattern : [bare "copy_check", quoteWord (treePath tree), quoteWord tree].any hasPattern =
      false := by
    rw [List.any_cons, List.any_cons, List.any_cons, hsrc.1, hrel.1]
    rfl
  have hfunction : st.functions.lookup "copy_check" = some copyCheckBody := by
    rw [h.functions]
    rfl
  unfold treeCommand callCommand
  rw [exec_words hpattern hwords,
    invoke_of_function (by decide +kernel) (by decide +kernel) hfunction]
  exact onSuccess_callFunction rfl (h.afterCall tree).errexit (onSuccess_copyCheckBody h tree)

end CopyCheck

/-!
## The run of the script
-/

/-- The last command that succeeds. -/
def allVerified : Event :=
  .ran ["echo", "archival: all asset trees copied and verified (size+hash)"] [] 0

section Script

variable {world : World} {st : ShellState} {dest : String}

theorem onSuccess_doneCommand (h : Ready st dest) (depth : Nat) :
    OnSuccess { st with trace := st.trace ++ [allVerified] }
      (exec (callAt world depth) world {} doneCommand st) := by
  have hquoted : hasPattern
      (quotedText "archival: all asset trees copied and verified (size+hash)") = false :=
    hasPattern_of_quoted fun c => lit_notMem_quotedText c _
  refine onSuccess_utility h.errexit rfl ?_ ?_ (h.utility (by decide +kernel)
    (by decide +kernel) (by decide +kernel))
  · rw [List.any_cons, List.any_cons, hquoted]
    rfl
  · simp only [expandAll, expand_bare, expand_quotedText, Option.map_some, String.ofList_toList]

/-- One call after another. -/
theorem onSuccess_treeCommands (h : Ready st dest) (depth : Nat) (trees : List String) :
    exists st', st'.trace = st.trace ++ (trees.flatMap (verified dest) ++ [allVerified]) ∧
      OnSuccess st'
        (execList (callAt world (depth + 1)) world {} 0 (trees.map treeCommand ++ [doneCommand]) st) := by
  induction trees generalizing st with
  | nil => exact ⟨_, rfl, onSuccess_cons (onSuccess_doneCommand h _) onSuccess_nil⟩
  | cons tree rest ih =>
      rcases ih (h.afterCall tree) with ⟨st', htrace, hrest⟩
      refine ⟨st', ?_, onSuccess_cons (onSuccess_treeCommand h depth tree) hrest⟩
      rw [htrace, List.flatMap_cons]
      simp only [afterCall, List.append_assoc]

theorem onSuccess_scriptCommands (world : World) (environment : List (String × String))
    (depth : Nat) (analysisId bucket : String) (datapointIds : List String) :
    exists st', st'.trace = (assetTrees analysisId datapointIds).flatMap
        (verified (destRoot analysisId bucket)) ++ [allVerified] ∧
      OnSuccess st' (execList (callAt world (depth + 1)) world {} 0
        (scriptCommands analysisId bucket datapointIds) { vars := environment }) := by
  have hset : OnSuccess { vars := environment, errexit := true, nounset := true }
      (exec (callAt world (depth + 1)) world {} setCommand { vars := environment }) := by
    have hwords : expandAll {} { vars := environment } [bare "set", bare "-eu"] =
        some ["set", "-eu"] := by
      simp [expandAll]
    unfold setCommand
    rw [exec_words rfl hwords, invoke_set]
    exact .next
  have hdest : OnSuccess
      { vars := ("dest", destRoot analysisId bucket) :: environment, errexit := true, nounset := true }
      (exec (callAt world (depth + 1)) world {}
        (destCommand (quoteWord (destRoot analysisId bucket)))
        { vars := environment, errexit := true, nounset := true }) := by
    have hliteral := literal_quoteWord (destRoot analysisId bucket)
    unfold destCommand
    rw [exec_assign hliteral.1 (hliteral.2 _ _)]
    exact .next
  have hdefinition : OnSuccess
      { vars := ("dest", destRoot analysisId bucket) :: environment,
        functions := [("copy_check", copyCheckBody)], errexit := true, nounset := true }
      (exec (callAt world (depth + 1)) world {} copyCheckDefinition
        { vars := ("dest", destRoot analysisId bucket) :: environment, errexit := true,
          nounset := true }) := by
    have hname : ("copy_check" ∈ unmodelled || "copy_check" ∈ ["set", "return"]) = false := by
      decide +kernel
    unfold copyCheckDefinition exec
    rw [hname]
    exact .next
  have hready : Ready
      { vars := ("dest", destRoot analysisId bucket) :: environment,
        functions := [("copy_check", copyCheckBody)], errexit := true, nounset := true }
      (destRoot analysisId bucket) := ⟨rfl, rfl, rfl⟩
  rcases @onSuccess_treeCommands world _ _ hready depth (assetTrees analysisId datapointIds) with
    ⟨st', htrace, hcalls⟩
  exact ⟨st', htrace, onSuccess_cons hset (onSuccess_cons hdest (onSuccess_cons hdefinition hcalls))⟩

end Script

/-!
## The law
-/

/-- The script of an analysis is read as the assignment of its destination and one call
of `copy_check` for each tree, with the path of the tree and the tree as literal
arguments, between commands that do not depend on the texts; and a run that ends with
status 0 has verified every tree. -/
structure InjectionFree (analysisId bucket : String) (datapointIds : List String) : Prop where
  reading : exists dest calls,
    parse (archiveScript analysisId bucket datapointIds) =
      some ([setCommand, destCommand dest, copyCheckDefinition] ++ calls ++ [doneCommand]) ∧
    Literal dest ("archive:" ++ bucket ++ "/" ++ analysisId) ∧
    List.Forall₂
      (fun call tree => exists src rel, call = callCommand src rel ∧
        Literal src (treePath tree) ∧ Literal rel tree)
      calls (assetTrees analysisId datapointIds)
  verifying : forall world environment depth, exists status trace,
    runScript world environment (depth + 1) (archiveScript analysisId bucket datapointIds) =
      some (status, trace) ∧
    Answered world trace ∧
    (status = 0 -> trace = (assetTrees analysisId datapointIds).flatMap
      (verified ("archive:" ++ bucket ++ "/" ++ analysisId)) ++ [allVerified])

/-- The archive script is free of injections and verifies every tree. -/
theorem archive_script_injection_free (analysisId bucket : String) (datapointIds : List String)
    (hid : NoNul analysisId) (hbucket : NoNul bucket)
    (hids : forall id, id ∈ datapointIds -> NoNul id) :
    InjectionFree analysisId bucket datapointIds where
  reading := by
    refine ⟨quoteWord (destRoot analysisId bucket),
      (assetTrees analysisId datapointIds).map treeCommand,
      parse_archiveScript hid hbucket hids, literal_quoteWord _, ?_⟩
    rw [List.forall₂_map_left_iff]
    exact List.forall₂_same.mpr fun tree _ =>
      ⟨_, _, rfl, literal_quoteWord (treePath tree), literal_quoteWord tree⟩
  verifying world environment depth := by
    rcases onSuccess_scriptCommands world environment depth analysisId bucket datapointIds with
      ⟨st', htrace, hrun⟩
    rcases runScript_of_onSuccess (parse_archiveScript hid hbucket hids) hrun with
      ⟨status, trace, hscript, hzero⟩
    exact ⟨status, trace, hscript, answered_of_runScript hscript,
      fun hstatus => (hzero hstatus).trans htrace⟩

theorem archive_script_injection_free_quote :
    InjectionFree "it's" "$(reboot)" ["a b", "*\n; rm -rf /"] :=
  archive_script_injection_free "it's" "$(reboot)" ["a b", "*\n; rm -rf /"] (by decide +kernel)
    (by decide +kernel) (List.forall_mem_cons.mpr ⟨by decide +kernel,
      List.forall_mem_cons.mpr ⟨by decide +kernel, fun _ h => absurd h List.not_mem_nil⟩⟩)

end ArchiveScript
end OpenStudioOperator
