import Filterbook.Proofs.Text.Split
import Filterbook.Settings.Reference

/-!
# References replaced once

The references of a text are found before any of them is replaced, but each one is then replaced
wherever it occurs in the text as it is by then: also in a value that came in for another reference, and
inside a reference to an unknown variable. This module compares that with the text in which each
reference is replaced where it stands and nothing else is touched.

## What is proved

* `cut_parts`: a text falls apart into references, each found as far left as possible, and characters
  between them.
* `foldl_replaceReference`: the references replaced one after another, in whatever order and however
  often, give the text in which each is replaced once, if no reference ends with another one (`Apart`) and
  the result refers to none of the variables any more (`Settled`).
* `references_replaced_once_iff`: so this text is what the settings are read from when it is settled, and
  of references that are apart the order and number of the replacements do not matter exactly then.
* `unknown_reference_changed`: a value is replaced again, and a reference to an unknown variable does not
  stay as written.
-/

namespace Filterbook.Settings

open Filterbook.Text

/-! ### The parts of a text -/

/-- The name in a reference: not empty and without a closing brace. -/
def IsName (name : List Char) : Prop := name ≠ [] ∧ '\x7d' ∉ name

/-- A part of a text. -/
inductive Part where
  /-- A character that stands for itself. -/
  | char (c : Char)
  /-- A reference. -/
  | reference (name : List Char)

/-- The parts of the characters, of which the first ones belong to a reference that is found already. -/
def partsAfter : (skip : Nat) → List Char → List Part
  | _, [] => []
  | skip + 1, _ :: cs => partsAfter skip cs
  | 0, c :: cs =>
    match referenceName? (c :: cs) with
    | some name => .reference name :: partsAfter (name.length + 2) cs
    | none => .char c :: partsAfter 0 cs

/-- The parts of the characters, from left to right. -/
def parts (cs : List Char) : List Part := partsAfter 0 cs

/-- The characters fall apart into parts: a reference where one begins, and a character elsewhere. -/
inductive Cut : List Char → List Part → Prop where
  /-- No characters have no parts. -/
  | nil : Cut [] []
  /-- The characters begin with a reference. -/
  | reference {name cs : List Char} {ps : List Part} :
      IsName name → Cut cs ps → Cut (writtenReference name ++ cs) (.reference name :: ps)
  /-- The characters begin with no reference. -/
  | char {c : Char} {cs : List Char} {ps : List Part} :
      (∀ name, IsName name → ¬ writtenReference name <+: c :: cs) → Cut cs ps →
        Cut (c :: cs) (.char c :: ps)

theorem writtenReference_ne_nil (name : List Char) : writtenReference name ≠ [] := by
  simp [writtenReference, opening]

theorem length_writtenReference (name : List Char) :
    (writtenReference name).length = name.length + 3 := by
  simp [writtenReference, opening]

theorem referenceName?_eq_some_iff {cs name : List Char} :
    referenceName? cs = some name ↔ IsName name ∧ writtenReference name <+: cs := by
  unfold referenceName?
  simp only [Option.bind_eq_bind, Option.bind_eq_some_iff, after?_eq_some_iff]
  constructor
  · rintro ⟨rest, rfl, h⟩
    split at h
    · cases h
    · next hshape =>
      obtain rfl := Option.some.inj h
      simp only [Bool.or_eq_true, List.isEmpty_iff, decide_eq_true_eq, not_or] at hshape
      obtain ⟨hne, hlength⟩ := hshape
      have hname := List.all_eq_true.mp (List.all_takeWhile (p := (· ≠ '\x7d')) (l := rest))
      have hsplit := List.takeWhile_append_dropWhile (p := (· ≠ '\x7d')) (l := rest)
      -- the name does not reach to the end, so a closing brace follows it
      match hafter : rest.dropWhile (· ≠ '\x7d') with
      | [] =>
        rw [hafter, List.append_nil] at hsplit
        exact absurd (congrArg List.length hsplit) hlength
      | d :: tail =>
        have hd : d = '\x7d' := by
          have hhead := List.head?_dropWhile_not (· ≠ '\x7d') rest
          rw [hafter] at hhead
          simpa using hhead
        refine ⟨⟨hne, fun hmem => by simpa using hname _ hmem⟩, tail, ?_⟩
        rw [hafter, hd] at hsplit
        rw [writtenReference, List.append_assoc, List.append_assoc, List.singleton_append, hsplit]
  · rintro ⟨⟨hne, hbrace⟩, rest, rfl⟩
    have htake : (name ++ '\x7d' :: rest).takeWhile (· ≠ '\x7d') = name := by
      rw [List.takeWhile_append_of_pos (by simpa using fun c hc (e : c = '\x7d') => hbrace (e ▸ hc))]
      simp
    refine ⟨name ++ '\x7d' :: rest, by simp [writtenReference], ?_⟩
    rw [htake]
    simp [hne]

/-- **The parts of a text** are its references from the left, and the characters between them. -/
theorem cut_partsAfter (skip : Nat) (cs : List Char) : Cut (cs.drop skip) (partsAfter skip cs) := by
  induction cs generalizing skip with
  | nil =>
    rw [List.drop_nil, partsAfter]
    exact .nil
  | cons c cs ih =>
    cases skip with
    | succ skip => exact ih skip
    | zero =>
      rw [List.drop_zero, partsAfter]
      split
      · next name hname =>
        obtain ⟨hisName, rest, hrest⟩ := referenceName?_eq_some_iff.mp hname
        have hdrop : cs.drop (name.length + 2) = rest := by
          rw [← List.drop_succ_cons (a := c), ← hrest]
          exact List.drop_left' (length_writtenReference name)
        rw [← hrest]
        exact .reference hisName (hdrop ▸ ih (name.length + 2))
      · next hname =>
        refine .char (fun name hisName hprefix => ?_) (ih 0)
        rw [referenceName?_eq_some_iff.mpr ⟨hisName, hprefix⟩] at hname
        cases hname

theorem cut_parts (cs : List Char) : Cut cs (parts cs) := cut_partsAfter 0 cs

theorem mem_referencesAfter_iff {name : List Char} (skip : Nat) (cs : List Char) :
    name ∈ referencesAfter skip cs ↔ .reference name ∈ partsAfter skip cs := by
  fun_induction partsAfter skip cs with
  | case1 => simp [referencesAfter]
  | case2 skip c cs ih => rw [referencesAfter, ih]
  | case3 c cs found hfound ih => simp [referencesAfter, hfound, ih]
  | case4 c cs hnone ih => simp [referencesAfter, hnone, ih]

theorem mem_references_iff {name cs : List Char} :
    name ∈ references cs ↔ .reference name ∈ parts cs := mem_referencesAfter_iff 0 cs

theorem Cut.isName {cs name : List Char} {ps : List Part} (h : Cut cs ps)
    (hname : .reference name ∈ ps) : IsName name := by
  induction h with
  | nil => cases hname
  | reference hisName _ ih =>
    rcases List.mem_cons.mp hname with heq | hname
    · cases heq
      exact hisName
    · exact ih hname
  | char _ _ ih =>
    rcases List.mem_cons.mp hname with heq | hname
    · cases heq
    · exact ih hname

/-! ### Replacing where a reference stands -/

/-- What comes in for a reference: the value of its variable, or for an unknown one the reference as it
is written. -/
def replacement (valueOf? : String → Option String) (name : List Char) : List Char :=
  match valueOf? (String.ofList name) with
  | some value => value.toList
  | none => writtenReference name

/-- A part with its reference replaced. -/
def Part.once (valueOf? : String → Option String) : Part → List Char
  | char c => [c]
  | reference name => replacement valueOf? name

/-- The text in which each reference is replaced where it stands, and all else is as it was. -/
def substituted (valueOf? : String → Option String) (text : String) : String :=
  String.ofList ((parts text.toList).flatMap (Part.once valueOf?))

/-- Replacing a reference has an effect. -/
def Changes (valueOf? : String → Option String) (name : List Char) : Prop :=
  replacement valueOf? name ≠ writtenReference name

instance (valueOf? : String → Option String) (name : List Char) : Decidable (Changes valueOf? name) :=
  inferInstanceAs (Decidable (_ ≠ _))

/-- Of the references that have an effect, none ends with another one. -/
def Apart (valueOf? : String → Option String) (text : String) : Prop :=
  ∀ outer ∈ references text.toList, ∀ inner ∈ references text.toList,
    Changes valueOf? outer → Changes valueOf? inner →
      writtenReference inner <:+ writtenReference outer → inner = outer

instance (valueOf? : String → Option String) (text : String) : Decidable (Apart valueOf? text) :=
  inferInstanceAs (Decidable (∀ outer ∈ _, ∀ inner ∈ _, _ → _ → _ → _))

/-- The text with its references replaced has none of them left that has an effect. -/
def Settled (valueOf? : String → Option String) (text : String) : Prop :=
  ∀ name ∈ references text.toList, Changes valueOf? name →
    ¬ writtenReference name <:+: (substituted valueOf? text).toList

instance (valueOf? : String → Option String) (text : String) : Decidable (Settled valueOf? text) :=
  inferInstanceAs (Decidable (∀ name ∈ _, _ → ¬ _))

variable {valueOf? : String → Option String} {done : List (List Char)} {name : List Char}
  {ps : List Part}

/-- One step of the replacing, whether or not the variable is known. -/
theorem replaceReference_eq (cs name : List Char) :
    replaceReference valueOf? cs name =
      replaceChars (writtenReference name) (replacement valueOf? name) cs := by
  unfold replaceReference replacement
  cases valueOf? (String.ofList name) with
  | some value => rfl
  | none => exact (replaceChars_self _ cs).symm

/-! ### Replacing one after another -/

/-- A part when some references are replaced. -/
def Part.soFar (valueOf? : String → Option String) (done : List (List Char)) : Part → List Char
  | char c => [c]
  | reference name => if name ∈ done then replacement valueOf? name else writtenReference name

/-- The parts when some references are replaced. -/
def soFar (valueOf? : String → Option String) (done : List (List Char)) (ps : List Part) : List Char :=
  ps.flatMap (Part.soFar valueOf? done)

theorem soFar_append (ps qs : List Part) :
    soFar valueOf? done (ps ++ qs) = soFar valueOf? done ps ++ soFar valueOf? done qs :=
  List.flatMap_append

theorem soFar_nil (h : Cut cs ps) : soFar valueOf? [] ps = cs := by
  induction h with
  | nil => rfl
  | reference _ _ ih => exact congrArg _ ih
  | char _ _ ih => exact congrArg _ ih

theorem soFar_congr {done' : List (List Char)}
    (h : ∀ name, .reference name ∈ ps → (name ∈ done ↔ name ∈ done')) :
    soFar valueOf? done ps = soFar valueOf? done' ps := by
  refine List.flatMap_congr fun p hp => ?_
  cases p with
  | char c => rfl
  | reference name => simp only [Part.soFar, h name hp]

theorem soFar_cons_of_not_changes (h : ¬ Changes valueOf? name) :
    soFar valueOf? (name :: done) ps = soFar valueOf? done ps := by
  refine List.flatMap_congr fun p _ => ?_
  cases p with
  | char c => rfl
  | reference n =>
    by_cases hn : n = name
    · subst hn
      simpa [Part.soFar] using fun _ => not_not.mp h
    · simp [Part.soFar, hn]

theorem soFar_of_all (h : ∀ name, .reference name ∈ ps → name ∈ done) :
    soFar valueOf? done ps = ps.flatMap (Part.once valueOf?) := by
  refine List.flatMap_congr fun p hp => ?_
  cases p with
  | char c => rfl
  | reference name => exact if_pos (h name hp)

/-- A reference that can be replaced wherever it occurs among the parts: it does not end with another one
that has an effect, nor another one with it, and it is gone when all are replaced. -/
structure Clear (valueOf? : String → Option String) (name : List Char) (ps : List Part) : Prop where
  /-- The parts have names in their references. -/
  isName : ∀ {n}, .reference n ∈ ps → IsName n
  /-- The reference is apart from the others. -/
  apart : ∀ {n}, .reference n ∈ ps → n ≠ name → Changes valueOf? n →
    ¬ writtenReference name <:+ writtenReference n ∧ ¬ writtenReference n <:+ writtenReference name
  /-- The reference does not occur when all are replaced. -/
  gone : ¬ writtenReference name <:+: ps.flatMap (Part.once valueOf?)

namespace Clear

variable {qs : List Part}

theorem of_append_left (h : Clear valueOf? name (ps ++ qs)) : Clear valueOf? name ps where
  isName hn := h.isName (List.mem_append_left qs hn)
  apart hn := h.apart (List.mem_append_left qs hn)
  gone hin := h.gone (by rw [List.flatMap_append]; exact List.infix_append_of_infix_left hin)

theorem of_append_right (h : Clear valueOf? name (ps ++ qs)) : Clear valueOf? name qs where
  isName hn := h.isName (List.mem_append_right ps hn)
  apart hn := h.apart (List.mem_append_right ps hn)
  gone hin := h.gone (by rw [List.flatMap_append]; exact List.infix_append_of_infix_right hin)

end Clear

/-- A reference that occurs when some are replaced occurs when all are, unless it stands at the end of
one not yet replaced, or that one at its end. -/
theorem infix_once_of_infix_soFar (hname : IsName name) (hnames : ∀ n, .reference n ∈ ps → IsName n)
    (hapart : ∀ n, .reference n ∈ ps → n ∉ done → Changes valueOf? n →
      ¬ writtenReference name <:+ writtenReference n ∧ ¬ writtenReference n <:+ writtenReference name)
    (before : List Char) (h : writtenReference name <:+: before ++ soFar valueOf? done ps) :
    writtenReference name <:+: before ++ ps.flatMap (Part.once valueOf?) := by
  induction ps generalizing before with
  | nil => exact h
  | cons p ps ih =>
    have hrest := ih (fun n hn => hnames n (List.mem_cons_of_mem p hn))
      (fun n hn => hapart n (List.mem_cons_of_mem p hn))
    rw [List.flatMap_cons, ← List.append_assoc]
    change _ <:+: before ++ (p.soFar valueOf? done ++ soFar valueOf? done ps) at h
    by_cases hsame : p.soFar valueOf? done = p.once valueOf?
    · rw [hsame, ← List.append_assoc] at h
      exact hrest _ h
    · -- a reference that is still to be replaced parts what is before it from what is behind it
      cases p with
      | char c => exact absurd rfl hsame
      | reference n =>
        have hn : n ∉ done := fun hn => hsame (if_pos hn)
        have hwritten : Part.soFar valueOf? done (.reference n) = writtenReference n := if_neg hn
        have hchanges : Changes valueOf? n := fun e => hsame (hwritten.trans e.symm)
        obtain ⟨hin, hout⟩ := hapart n (List.mem_cons_self ..) hn hchanges
        obtain ⟨-, hbrace⟩ := hname
        obtain ⟨-, hbrace'⟩ := hnames n (List.mem_cons_self ..)
        rw [hwritten, ← List.append_assoc] at h
        rcases infix_closed_cases (by simpa [opening] using hbrace) (by simpa [opening] using hbrace') h
          with h | h | h
        · exact List.infix_append_of_infix_left (List.infix_append_of_infix_left h)
        · rcases List.suffix_or_suffix_of_suffix h (List.suffix_append before _) with h | h
          · exact absurd h hin
          · exact absurd h hout
        · exact List.infix_append_of_infix_right (hrest [] h)

/-- A reference that is replaced, or not among the parts, does not occur any more. -/
theorem Clear.not_infix (h : Clear valueOf? name ps) (hname : IsName name)
    (hdone : .reference name ∈ ps → name ∈ done) :
    ¬ writtenReference name <:+: soFar valueOf? done ps := by
  intro hin
  refine h.gone (infix_once_of_infix_soFar hname (fun n => h.isName) ?_ [] hin)
  intro n hn hnot
  exact h.apart hn fun e => hnot (e ▸ hdone (e ▸ hn))

/-- **One step**: replacing a reference wherever it occurs replaces it in its places. -/
theorem Clear.replaceChars_soFar (h : Clear valueOf? name ps) (hname : IsName name) :
    replaceChars (writtenReference name) (replacement valueOf? name) (soFar valueOf? done ps) =
      soFar valueOf? (name :: done) ps := by
  induction hlength : ps.length using Nat.strong_induction_on generalizing ps with
  | _ k ih =>
    by_cases hmem : .reference name ∈ ps ∧ name ∉ done
    · obtain ⟨hmem, hdone⟩ := hmem
      obtain ⟨before, after, rfl, hbefore⟩ := List.eq_append_cons_of_mem hmem
      have hhead : Clear valueOf? name ([.reference name] ++ after) := h.of_append_right
      have hafter : Clear valueOf? name after := hhead.of_append_right
      have hnot : ¬ writtenReference name <:+:
          soFar valueOf? done before ++ (writtenReference name).dropLast := by
        have hfront : ¬ writtenReference name <:+: soFar valueOf? done before :=
          h.of_append_left.not_infix hname fun hin => absurd hin hbefore
        have hdrop : (writtenReference name).dropLast = opening ++ name := List.dropLast_concat
        have hbrace : '\x7d' ∉ opening ++ name := by simpa [opening] using hname.2
        rw [hdrop]
        exact fun hin => hfront (infix_of_infix_append_of_notMem hin hbrace)
      have hsame : soFar valueOf? (name :: done) before = soFar valueOf? done before :=
        soFar_congr fun n hn => by
          have hne : n ≠ name := fun e => hbefore (e ▸ hn)
          simp [hne]
      have hhere : soFar valueOf? done [.reference name] = writtenReference name := by
        simp [soFar, Part.soFar, hdone]
      have hthere : soFar valueOf? (name :: done) [.reference name] = replacement valueOf? name := by
        simp [soFar, Part.soFar]
      rw [← List.singleton_append, ← List.append_assoc, soFar_append, soFar_append, hhere,
        replaceChars_append (writtenReference_ne_nil name) hnot, ih after.length ?_ hafter rfl,
        soFar_append, soFar_append, hsame, hthere]
      rw [← hlength, List.length_append, List.length_cons]
      omega
    · have hdone : .reference name ∈ ps → name ∈ done := by
        intro hin
        by_contra hnot
        exact hmem ⟨hin, hnot⟩
      rw [replaceChars_of_absent (h.not_infix hname hdone)]
      refine soFar_congr fun n hn => ?_
      rw [List.mem_cons]
      refine ⟨.inr, ?_⟩
      rintro (rfl | hn')
      · exact hdone hn
      · exact hn'

/-- **A whole run**: the references replaced one after another are replaced in their places. -/
theorem foldl_replaceReference {order : List (List Char)}
    (hname : ∀ name ∈ order, IsName name)
    (hclear : ∀ name ∈ order, Changes valueOf? name → Clear valueOf? name ps) :
    order.foldl (replaceReference valueOf?) (soFar valueOf? done ps) =
      soFar valueOf? (order.reverse ++ done) ps := by
  induction order generalizing done with
  | nil => rfl
  | cons name order ih =>
    rw [List.forall_mem_cons] at hname hclear
    have hstep : replaceReference valueOf? (soFar valueOf? done ps) name =
        soFar valueOf? (name :: done) ps := by
      rw [replaceReference_eq]
      by_cases hchanges : Changes valueOf? name
      · exact (hclear.1 hchanges).replaceChars_soFar hname.1
      · rw [soFar_cons_of_not_changes hchanges, not_not.mp hchanges, replaceChars_self]
    rw [List.foldl_cons, hstep, ih hname.2 hclear.2]
    simp

/-! ### When each reference is replaced once -/

section

variable {text : String}

theorem isName_of_mem_references {cs : List Char} (h : name ∈ references cs) : IsName name :=
  (cut_parts cs).isName (mem_references_iff.mp h)

theorem Settled.clear (hsettled : Settled valueOf? text) (hapart : Apart valueOf? text)
    (hname : name ∈ references text.toList) (hchanges : Changes valueOf? name) :
    Clear valueOf? name (parts text.toList) where
  isName hn := (cut_parts _).isName hn
  apart hn hne hchanges' :=
    have hn := mem_references_iff.mpr hn
    ⟨fun h => hne (hapart _ hn _ hname hchanges' hchanges h).symm,
      fun h => hne (hapart _ hname _ hn hchanges hchanges' h)⟩
  gone := by simpa [substituted] using hsettled name hname hchanges

/-- Whatever the order, and however often, the references are replaced in their places. -/
theorem Settled.foldl_eq (hsettled : Settled valueOf? text) (hapart : Apart valueOf? text)
    {order : List (List Char)} (horder : ∀ name, name ∈ order ↔ name ∈ references text.toList) :
    String.ofList (order.foldl (replaceReference valueOf?) text.toList) =
      substituted valueOf? text := by
  have hrun : order.foldl (replaceReference valueOf?) (soFar valueOf? [] (parts text.toList)) =
      soFar valueOf? (order.reverse ++ []) (parts text.toList) :=
    foldl_replaceReference (fun name hname => isName_of_mem_references ((horder name).mp hname))
      fun name hname => hsettled.clear hapart ((horder name).mp hname)
  have hall : ∀ name, .reference name ∈ parts text.toList → name ∈ order.reverse ++ [] := by
    intro name hname
    simpa [horder] using mem_references_iff.mpr hname
  rw [soFar_nil (cut_parts _), soFar_of_all hall] at hrun
  rw [hrun, substituted]

/-- Where a reference is left that has an effect, one more replacement is one too many. -/
theorem settled_of_foldl_eq
    (h : ∀ order : List (List Char), (∀ name, name ∈ order ↔ name ∈ references text.toList) →
      String.ofList (order.foldl (replaceReference valueOf?) text.toList) =
        substituted valueOf? text) : Settled valueOf? text := by
  intro name hname hchanges
  have honce := congrArg String.toList (h (references text.toList) fun _ => Iff.rfl)
  have htwice := congrArg String.toList (h (references text.toList ++ [name]) fun n => by
    rw [List.mem_append, List.mem_singleton, or_iff_left_iff_imp]
    rintro rfl
    exact hname)
  rw [String.toList_ofList] at honce htwice
  rw [List.foldl_append, honce, List.foldl_cons, List.foldl_nil, replaceReference_eq,
    replaceChars_eq_self_iff (writtenReference_ne_nil name)] at htwice
  exact htwice.resolve_left hchanges

/-- **When references are replaced once and verbatim.** A text falls apart into references, found from
the left, and characters between them. When no reference ends with another one, and the text with each
reference replaced where it stands is settled, the settings are read from that text; and exactly when it
is settled do the references, replaced one after another, give it in every order. -/
theorem references_replaced_once_iff (hapart : Apart valueOf? text) :
    Cut text.toList (parts text.toList) ∧
      (Settled valueOf? text → expandReferences valueOf? text = substituted valueOf? text) ∧
      (Settled valueOf? text ↔
        ∀ order : List (List Char), (∀ name, name ∈ order ↔ name ∈ references text.toList) →
          String.ofList (order.foldl (replaceReference valueOf?) text.toList) =
            substituted valueOf? text) :=
  ⟨cut_parts _, fun hsettled => hsettled.foldl_eq hapart fun _ => Iff.rfl,
    fun hsettled _ horder => hsettled.foldl_eq hapart horder, settled_of_foldl_eq⟩

end

/-- Three variables, of which one refers to another and one ends with a dollar sign. -/
def deskVariables (name : String) : Option String :=
  if name = "USER" then some "ann"
  else if name = "PRICE" then some "5$"
  else if name = "PATH" then some "$\x7bUSER\x7d"
  else none

theorem references_replaced_once_iff_desk :
    Apart deskVariables "$\x7bUSER\x7d.$\x7bPRICE\x7d$\x7bDESK\x7d.$\x7bUSER\x7d" ∧
      expandReferences deskVariables "$\x7bUSER\x7d.$\x7bPRICE\x7d$\x7bDESK\x7d.$\x7bUSER\x7d" =
        "ann.5$$\x7bDESK\x7d.ann" := by
  have hapart : Apart deskVariables "$\x7bUSER\x7d.$\x7bPRICE\x7d$\x7bDESK\x7d.$\x7bUSER\x7d" := by
    decide +kernel
  refine ⟨hapart, ?_⟩
  rw [(references_replaced_once_iff hapart).2.1 (by decide +kernel)]
  decide +kernel

/-- A value is replaced again, and a reference to an unknown variable does not stay as written. -/
theorem unknown_reference_changed :
    expandReferences deskVariables "$\x7bPATH\x7d $\x7bDESK$\x7bUSER\x7d $\x7bUSER\x7d" =
        "ann $\x7bDESKann ann" ∧
      substituted deskVariables "$\x7bPATH\x7d $\x7bDESK$\x7bUSER\x7d $\x7bUSER\x7d" =
        "$\x7bUSER\x7d $\x7bDESK$\x7bUSER\x7d ann" := by
  decide +kernel

end Filterbook.Settings
