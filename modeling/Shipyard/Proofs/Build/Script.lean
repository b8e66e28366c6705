import Mathlib.Tactic.SplitIfs
import Shipyard.Proofs.Rehearsal
import Shipyard.Step.Build

/-!
# The script of a container

What compiles a target inside a container is a script for a shell, and the architecture of the
target is a word of it. `ShellWord.quote` writes any text as a word, and a reader of shell words gets
it back (`ShellWord.split?_intercalate`). What the reader gets through holds nothing that a shell
gives a meaning to, other than quotes and blanks between words (`ShellWord.plain_of_split?`). So the
script has five words for every architecture (`Build.container_words_exact`).
-/

namespace Shipyard

namespace ShellWord

variable {found : List (List Char)} {word cs rest : List Char} {c : Char}

/-! ## Characters with a meaning -/

/-- The characters that POSIX wants to be quoted if they are to stand for themselves, with those that
make a group or a negation. The two that it lists besides, `=` and `%`, have a meaning only in front
of the name of a command and in the names of jobs. -/
def special : List Char :=
  ['|', '&', ';', '<', '>', '(', ')', '$', '\x60', '\\', '"', '\x27', ' ', '\t', '\n', '*', '?',
    '[', '#', '~', '!', '\x7b', '\x7d']

theorem not_mem_special_of_isPlain (h : isPlain c = true) : c ∉ special := by
  have hall : special.all (fun c => !isPlain c) = true := by decide
  intro hc
  have hnot := List.all_eq_true.mp hall c hc
  rw [h] at hnot
  cases hnot

/-- A plain character is no blank and no quote. -/
theorem ne_of_isPlain (h : isPlain c = true) : c ≠ ' ' ∧ c ≠ '\x27' ∧ c ≠ '"' := by
  have hspecial := not_mem_special_of_isPlain h
  refine ⟨?_, ?_, ?_⟩
  all_goals
    rintro rfl
    exact hspecial (by decide)

/-! ## Reading what was quoted -/

/-- Plain characters go on with a word. -/
theorem splitFrom_plain (h : ∀ c ∈ cs, isPlain c = true) :
    splitFrom found (.plain word) (cs ++ rest) =
      splitFrom found (.plain (cs.reverse ++ word)) rest := by
  induction cs generalizing word with
  | nil => rfl
  | cons c cs ih =>
    obtain ⟨hc, hcs⟩ := List.forall_mem_cons.mp h
    obtain ⟨hblank, hsingle, hdouble⟩ := ne_of_isPlain hc
    rw [List.cons_append, splitFrom, if_neg hblank, if_neg hsingle, if_neg hdouble, if_pos hc,
      ih hcs, List.reverse_cons, List.append_assoc]
    rfl

/-- Between single quotes a quote is read back from where it was spliced in, and every other
character stands for itself. -/
theorem splitFrom_quotedBody (cs : List Char) :
    splitFrom found (.single word) (quotedBody cs ++ rest) =
      splitFrom found (.single (cs.reverse ++ word)) rest := by
  induction cs generalizing word with
  | nil => rfl
  | cons c cs ih =>
    have hbody : quotedBody (c :: cs) =
        (if c = '\x27' then ['\x27', '"', '\x27', '"', '\x27'] else [c]) ++ quotedBody cs := rfl
    rw [hbody, List.append_assoc, List.reverse_cons, List.append_assoc, List.singleton_append]
    by_cases hc : c = '\x27'
    · subst hc
      -- out of the single quotes, into double ones and back
      exact ih
    · rw [if_neg hc, List.singleton_append, splitFrom, if_neg hc, ih]

/-- **A quoted text is read as one word.** -/
theorem splitFrom_quoteChars (cs : List Char) :
    splitFrom found .outside (quoteChars cs ++ rest) =
      splitFrom found (.plain cs.reverse) rest := by
  rw [quoteChars]
  by_cases hempty : cs = []
  · rw [if_pos hempty, hempty]
    rfl
  rw [if_neg hempty]
  by_cases hplain : cs.all isPlain = true
  · rw [if_pos hplain]
    obtain ⟨c, cs, rfl⟩ := List.exists_cons_of_ne_nil hempty
    obtain ⟨hc, hcs⟩ := List.forall_mem_cons.mp (List.all_eq_true.mp hplain)
    obtain ⟨hblank, hsingle, hdouble⟩ := ne_of_isPlain hc
    rw [List.cons_append, splitFrom, if_neg hblank, if_neg hsingle, if_neg hdouble, if_pos hc,
      splitFrom_plain hcs, List.reverse_cons]
  · rw [if_neg hplain]
    have hopen : splitFrom found .outside ('\x27' :: quotedBody cs ++ ['\x27'] ++ rest) =
        splitFrom found (.single []) (quotedBody cs ++ ('\x27' :: rest)) := by
      rw [List.append_assoc, List.cons_append, splitFrom]
      rfl
    rw [hopen, splitFrom_quotedBody, splitFrom, if_pos rfl, List.append_nil]

theorem splitFrom_intercalate (found : List (List Char)) (words : List String) :
    splitFrom found .outside (String.intercalate " " (words.map quote)).toList =
      some (found.reverse ++ words.map String.toList) := by
  induction words generalizing found with
  | nil => simp [splitFrom]
  | cons s words ih =>
    have hquote : (quote s).toList = quoteChars s.toList := String.toList_ofList
    by_cases hlast : words = []
    · have hread : splitFrom found .outside (quoteChars s.toList) =
          splitFrom found (.plain s.toList.reverse) [] := by
        simpa only [List.append_nil] using @splitFrom_quoteChars found [] s.toList
      rw [hlast, List.map_singleton, String.intercalate_singleton, hquote, hread, splitFrom]
      simp
    · have hne : words.map quote ≠ [] := by simpa using hlast
      rw [List.map_cons, String.intercalate_cons_of_ne_nil hne, String.toList_append,
        String.toList_append, hquote, List.append_assoc, splitFrom_quoteChars]
      have hblank : (" " : String).toList = [' '] := rfl
      rw [hblank, List.singleton_append, splitFrom, if_pos rfl, ih]
      simp

/-- **Quoted words are read back**, whatever texts they are. -/
theorem split?_intercalate (words : List String) :
    split? (String.intercalate " " (words.map quote)) = some words := by
  rw [split?, splitFrom_intercalate]
  simp

example : quote "it's" = "'it'\"'\"'s'" := by decide

/-! ## What no quotes protect -/

/-- The quotes around a character. -/
inductive Quotes where
  /-- there are none -/
  | none
  /-- single quotes -/
  | single
  /-- double quotes -/
  | double
  deriving DecidableEq, Repr

/-- The characters to which a shell may give a meaning: those without quotes around them, and those
that keep one between double quotes. The quotes themselves are left out. -/
def exposedFrom : Quotes → List Char → List Char
  | _, [] => []
  | .none, c :: rest =>
    if c = '\x27' then exposedFrom .single rest
    else if c = '"' then exposedFrom .double rest
    else c :: exposedFrom .none rest
  | .single, c :: rest =>
    if c = '\x27' then exposedFrom .none rest else exposedFrom .single rest
  | .double, c :: rest =>
    if c = '"' then exposedFrom .none rest
    else if isActiveInDouble c then c :: exposedFrom .double rest
    else exposedFrom .double rest

/-- The characters of a command to which a shell may give a meaning. -/
def exposed (s : String) : List Char := exposedFrom .none s.toList

/-- The quotes around the next character of a reader. -/
def ReadState.quotes : ReadState → Quotes
  | .outside | .plain _ => .none
  | .single _ => .single
  | .double _ => .double

/-- A step of the reader leaves it at the rest of the text, and what it exposes is a blank or a
plain character. -/
theorem step_of_splitFrom {state : ReadState} {words : List (List Char)}
    (h : splitFrom found state (c :: rest) = some words) :
    ∃ found' state', splitFrom found' state' rest = some words ∧
      ∀ d ∈ exposedFrom state.quotes (c :: rest),
        (d = ' ' ∨ isPlain d = true) ∨ d ∈ exposedFrom state'.quotes rest := by
  cases state with
  | outside =>
    rw [splitFrom] at h
    split_ifs at h with hblank hsingle hdouble hplain
    all_goals exact ⟨_, _, h, by simp_all [ReadState.quotes, exposedFrom]⟩
  | plain word =>
    rw [splitFrom] at h
    split_ifs at h with hblank hsingle hdouble hplain
    all_goals exact ⟨_, _, h, by simp_all [ReadState.quotes, exposedFrom]⟩
  | single word =>
    rw [splitFrom] at h
    split_ifs at h with hsingle
    all_goals exact ⟨_, _, h, by simp_all [ReadState.quotes, exposedFrom]⟩
  | double word =>
    rw [splitFrom] at h
    split_ifs at h with hdouble hactive
    all_goals exact ⟨_, _, h, by simp_all [ReadState.quotes, exposedFrom]⟩

theorem plain_of_splitFrom {state : ReadState} {words : List (List Char)}
    (h : splitFrom found state cs = some words) :
    ∀ c ∈ exposedFrom state.quotes cs, c = ' ' ∨ isPlain c = true := by
  induction cs generalizing found state with
  | nil => simp [exposedFrom]
  | cons c cs ih =>
    obtain ⟨found', state', hrest, hstep⟩ := step_of_splitFrom h
    intro d hd
    rcases hstep d hd with hharmless | hlater
    · exact hharmless
    · exact ih hrest d hlater

/-- **What is read is protected.** A command that is cut into words exposes only blanks and plain
characters. -/
theorem plain_of_split? {s : String} {words : List String} (h : split? s = some words) :
    ∀ c ∈ exposed s, c = ' ' ∨ isPlain c = true := by
  obtain ⟨read, hread, -⟩ := Option.map_eq_some_iff.mp h
  exact plain_of_splitFrom hread

end ShellWord

/-! ## The script -/

namespace Build

open ShellWord

theorem intercalate_script (word : String) :
    String.intercalate " " ["cargo", "build", "--release", "--target", word] =
      "cargo build --release --target " ++ word := by
  have hfront : "cargo" ++ " " ++ ("build" ++ " " ++ ("--release" ++ " " ++ ("--target" ++ " "))) =
      "cargo build --release --target " := by
    decide
  rw [String.intercalate_cons_of_ne_nil (by simp), String.intercalate_cons_of_ne_nil (by simp),
    String.intercalate_cons_of_ne_nil (by simp), String.intercalate_cons_of_ne_nil (by simp),
    String.intercalate_singleton, ← hfront]
  simp only [String.append_assoc]

/-- The script consists of five quoted words. -/
theorem containerScript_eq (triple : String) :
    containerScript triple = String.intercalate " "
      (["cargo", "build", "--release", "--target", triple].map quote) := by
  have hplain : ["cargo", "build", "--release", "--target"].map quote =
      ["cargo", "build", "--release", "--target"] := by
    decide
  calc containerScript triple
      = String.intercalate " " (["cargo", "build", "--release", "--target"] ++ [quote triple]) :=
        (intercalate_script (quote triple)).symm
    _ = String.intercalate " " (["cargo", "build", "--release", "--target"].map quote ++
          [quote triple]) := by rw [hplain]

/-- **The words of a container.** A target with a container is compiled by one command, and that
command hands a script to the shell of the container. However the architecture is written, the
script has five words, the last of which is the architecture, and nothing in it that a shell gives a
meaning to is left without quotes. -/
theorem container_words_exact (c : RunContext) (target : BuildTarget) (checkout : Path)
    (htarget : target.toolchain = .container) :
    ∃ front script,
      commands c target checkout =
        [{ argv := front ++ [c.config.toolchain.builderImage, "sh", "-c", script], env := [] }] ∧
      split? script = some ["cargo", "build", "--release", "--target", target.triple] ∧
      ∀ d ∈ exposed script, d = ' ' ∨ d ∉ special := by
  have hsplit : split? (containerScript target.triple) =
      some ["cargo", "build", "--release", "--target", target.triple] := by
    rw [containerScript_eq, split?_intercalate]
  refine ⟨["docker", "run", "--rm", "--volume", checkout.text ++ ":" ++ mountPoint, "--workdir",
      mountPoint] ++ target.containerEnv.flatMap fun entry => ["-e", entry.1 ++ "=" ++ entry.2],
    containerScript target.triple, ?_, hsplit, fun d hd => ?_⟩
  · rw [commands, htarget]
  · exact (plain_of_split? hsplit d hd).imp_right not_mem_special_of_isPlain

/-- A target whose architecture has about everything that a shell gives a meaning to. -/
def twisted : BuildTarget := { BuildTarget.linux with triple := "it's $HOME; \"x\" *\n" }

/-- It is one word all the same. -/
theorem container_words_exact_twisted :
    ∃ front script,
      commands Rehearsal.context twisted ⟨.root, ["r"]⟩ =
        [{ argv := front ++ ["joseluisq/rust-linux-darwin-builder:1.60.0", "sh", "-c", script]
           env := [] }] ∧
      split? script =
        some ["cargo", "build", "--release", "--target", "it's $HOME; \"x\" *\n"] ∧
      ∀ d ∈ exposed script, d = ' ' ∨ d ∉ special :=
  container_words_exact Rehearsal.context twisted ⟨.root, ["r"]⟩ rfl

end Build

end Shipyard
