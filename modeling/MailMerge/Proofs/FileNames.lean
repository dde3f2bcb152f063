import MailMerge.Files.Path
import Mathlib.Tactic.Lemma

/-!
# Names of files

A file name is cut at its last point (`splitExtension_append`), and a path at its slashes. A name
without slashes is one step behind the path it is joined to (`steps_join`).
-/

namespace MailMerge

namespace Text

variable {α : Type} [DecidableEq α] {sep : α}

lemma cutFirst_eq_some_iff {xs before after : List α} :
    cutFirst sep xs = some (before, after) ↔ sep ∉ before ∧ xs = before ++ sep :: after := by
  induction xs generalizing before with
  | nil => simp [cutFirst]
  | cons a xs ih =>
    rw [cutFirst]
    by_cases ha : a = sep
    · rw [if_pos ha, ha]
      cases before with
      | nil => simp
      | cons b before => grind
    · rw [if_neg ha, Option.map_eq_some_iff]
      constructor
      · rintro ⟨⟨front, rest⟩, hcut, hcons⟩
        cases hcons
        obtain ⟨hfront, rfl⟩ := ih.mp hcut
        exact ⟨by simp [hfront, Ne.symm ha], rfl⟩
      · rintro ⟨hbefore, hxs⟩
        cases before with
        | nil =>
          rw [List.nil_append, List.cons.injEq] at hxs
          exact absurd hxs.1 ha
        | cons b before =>
          rw [List.cons_append, List.cons.injEq] at hxs
          rw [List.mem_cons, not_or] at hbefore
          exact ⟨(before, after), ih.mpr ⟨hbefore.2, hxs.2⟩, by rw [hxs.1]⟩

lemma cutLast_eq_some_iff {xs before after : List α} :
    cutLast sep xs = some (before, after) ↔ sep ∉ after ∧ xs = before ++ sep :: after := by
  rw [cutLast, Option.map_eq_some_iff]
  constructor
  · rintro ⟨⟨front, rest⟩, hcut, hpair⟩
    cases hpair
    obtain ⟨hfront, hxs⟩ := cutFirst_eq_some_iff.mp hcut
    have hreverse := congrArg List.reverse hxs
    rw [List.reverse_reverse, List.reverse_append, List.reverse_cons, List.append_assoc] at hreverse
    exact ⟨by simpa using hfront, hreverse⟩
  · rintro ⟨hafter, rfl⟩
    refine ⟨(after.reverse, before.reverse), cutFirst_eq_some_iff.mpr ⟨by simpa using hafter, ?_⟩,
      by simp⟩
    simp

lemma pieces_append (front rest : List α) :
    pieces sep (front ++ sep :: rest) = pieces sep front ++ pieces sep rest := by
  induction front with
  | nil => simp [pieces]
  | cons a front ih =>
    rw [List.cons_append, pieces, pieces, ih]
    by_cases ha : a = sep
    · rw [if_pos ha, if_pos ha, List.cons_append]
    · rw [if_neg ha, if_neg ha]
      cases hpieces : pieces sep front with
      | nil => exact absurd hpieces (pieces_ne_nil sep front)
      | cons p ps => rfl

lemma pieces_of_not_mem {xs : List α} (h : sep ∉ xs) : pieces sep xs = [xs] := by
  induction xs with
  | nil => rfl
  | cons a xs ih =>
    rw [List.mem_cons, not_or] at h
    rw [pieces, if_neg (Ne.symm h.1), ih h.2, extendFirst]

lemma pieces_append_of_not_mem {front xs first : List α} {others : List (List α)}
    (h : sep ∉ front) (hxs : pieces sep xs = first :: others) :
    pieces sep (front ++ xs) = (front ++ first) :: others := by
  induction front with
  | nil => exact hxs
  | cons a front ih =>
    rw [List.mem_cons, not_or] at h
    rw [List.cons_append, pieces, if_neg (Ne.symm h.1), ih h.2, extendFirst, List.cons_append]

lemma exists_pieces_eq (sep : α) (xs : List α) : ∃ first others, pieces sep xs = first :: others ∧
    sep ∉ first ∧ (others = [] → xs = first) := by
  induction xs with
  | nil => exact ⟨[], [], rfl, by simp, fun _ => rfl⟩
  | cons a xs ih =>
    obtain ⟨first, others, hpieces, hfirst, hwhole⟩ := ih
    rw [pieces]
    by_cases ha : a = sep
    · rw [if_pos ha]
      exact ⟨[], pieces sep xs, rfl, by simp, fun h => absurd h (pieces_ne_nil sep xs)⟩
    · rw [if_neg ha, hpieces]
      exact ⟨a :: first, others, rfl, by simp [hfirst, Ne.symm ha], fun h => by rw [← hwhole h]⟩

end Text

section Extensions

lemma toList_dotted (stem extension : String) :
    (stem ++ "." ++ extension).toList = stem.toList ++ '.' :: extension.toList := by
  simp [String.toList_append]

lemma splitExtension_append {stem extension : String} (hstem : stem ≠ "")
    (h : '.' ∉ extension.toList) :
    splitExtension (stem ++ "." ++ extension) = (stem, some extension) := by
  have hcut : Text.cutLast '.' (stem ++ "." ++ extension).toList =
      some (stem.toList, extension.toList) :=
    Text.cutLast_eq_some_iff.mpr ⟨h, toList_dotted stem extension⟩
  have hchars : stem.toList ≠ [] := by simpa using hstem
  rw [splitExtension, hcut]
  cases hlist : stem.toList with
  | nil => exact absurd hlist hchars
  | cons c cs =>
    dsimp only
    rw [← hlist, String.ofList_toList, String.ofList_toList]

lemma eq_append_of_splitExtension {name stem extension : String}
    (h : splitExtension name = (stem, some extension)) :
    name = stem ++ "." ++ extension ∧ '.' ∉ extension.toList := by
  unfold splitExtension at h
  split at h
  · cases h
  · next before after _ hcut =>
    cases h
    obtain ⟨hafter, hname⟩ := Text.cutLast_eq_some_iff.mp hcut
    refine ⟨String.toList_inj.mp ?_, by simpa using hafter⟩
    rw [toList_dotted, String.toList_ofList, String.toList_ofList, hname]
  · cases h

lemma dotted_inj {front front' extension extension' : String} (hfront : '.' ∉ front.toList)
    (hfront' : '.' ∉ front'.toList)
    (h : front ++ "." ++ extension = front' ++ "." ++ extension') :
    front = front' ∧ extension = extension' := by
  have hchars := congrArg String.toList h
  rw [toList_dotted, toList_dotted] at hchars
  have hcut : Text.cutFirst '.' (front.toList ++ '.' :: extension.toList) =
      some (front'.toList, extension'.toList) :=
    Text.cutFirst_eq_some_iff.mpr ⟨hfront', hchars⟩
  rw [Text.cutFirst_eq_some_iff.mpr ⟨hfront, rfl⟩] at hcut
  have hpair := Prod.mk.inj (Option.some.inj hcut)
  exact ⟨String.toList_inj.mp hpair.1, String.toList_inj.mp hpair.2⟩

end Extensions

section Paths

variable {p : Path} {name : String}

/-- A name that is one step: it has no slash, and does not stand for a folder on the way. -/
structure Path.IsStep (name : String) : Prop where
  noSlash : '/' ∉ name.toList
  notIdle : Path.isIdle name.toList = false
  notUp : name ≠ ".."

namespace Path

lemma isStep_of_mem {c : Char} (hslash : '/' ∉ name.toList) (hc : c ∈ name.toList)
    (hpoint : c ≠ '.') : IsStep name := by
  refine ⟨hslash, ?_, fun hup => ?_⟩
  · rw [isIdle, Bool.or_eq_false_iff, beq_eq_false_iff_ne, beq_eq_false_iff_ne]
    exact ⟨List.ne_nil_of_mem hc, fun hone => hpoint (List.mem_singleton.mp (hone ▸ hc))⟩
  · rw [hup] at hc
    exact hpoint (by simpa using hc)

lemma pieces_of_isStep (h : IsStep name) : pieces ⟨name⟩ = [name.toList] :=
  Text.pieces_of_not_mem h.noSlash

lemma steps_of_isStep (h : IsStep name) : steps ⟨name⟩ = [name] := by
  rw [steps, pieces_of_isStep h, List.filter_cons_of_pos (by simp [h.notIdle])]
  simp

lemma isAbsolute_of_isStep (h : IsStep name) : isAbsolute ⟨name⟩ = false := by
  have hslash := h.noSlash
  unfold isAbsolute
  cases hchars : name.toList with
  | nil => rfl
  | cons c cs =>
    rw [hchars, List.mem_cons, not_or] at hslash
    simpa using Ne.symm hslash.1

lemma exists_text_join (p : Path) :
    ∃ front, ∀ name, isAbsolute ⟨name⟩ = false → (p.join name).text = front ++ name := by
  by_cases hend : p.text.toList.getLast?.getD '/' = '/'
  · refine ⟨p.text, fun name h => ?_⟩
    rw [join, if_neg (by simp [h]), if_pos hend]
  · refine ⟨p.text ++ "/", fun name h => ?_⟩
    rw [join, if_neg (by simp [h]), if_neg hend]

lemma exists_pieces_join (p : Path) (h : isAbsolute ⟨name⟩ = false) :
    ∃ front, (p.join name).pieces = front ++ pieces ⟨name⟩ ∧
      (front.filter fun s => !isIdle s).map String.ofList = p.steps := by
  rw [join, if_neg (by simp [h])]
  by_cases hend : p.text.toList.getLast?.getD '/' = '/'
  · rw [if_pos hend]
    cases hlast : p.text.toList.getLast? with
    | none =>
      rw [List.getLast?_eq_none_iff] at hlast
      refine ⟨[], ?_, ?_⟩
      · simp [pieces, String.toList_append, hlast]
      · simp [steps, pieces, hlast, Text.pieces, isIdle]
    | some c =>
      rw [hlast, Option.getD_some] at hend
      obtain ⟨cs, hcs⟩ := List.getLast?_eq_some_iff.mp hlast
      subst hend
      refine ⟨Text.pieces '/' cs, ?_, ?_⟩
      · rw [pieces, pieces, String.toList_append, hcs, List.append_assoc, List.singleton_append,
          Text.pieces_append]
      · rw [steps, pieces, hcs, Text.pieces_append]
        simp [Text.pieces, isIdle]
  · rw [if_neg hend]
    refine ⟨p.pieces, ?_, rfl⟩
    rw [pieces, pieces, pieces, String.toList_append, String.toList_append, List.append_assoc]
    exact Text.pieces_append p.text.toList name.toList

lemma steps_join (p : Path) (h : isAbsolute ⟨name⟩ = false) :
    (p.join name).steps = p.steps ++ steps ⟨name⟩ := by
  obtain ⟨front, hpieces, hfront⟩ := exists_pieces_join p h
  rw [steps, hpieces, List.filter_append, List.map_append, hfront, ← steps]

lemma isAbsolute_join (p : Path) (h : isAbsolute ⟨name⟩ = false) :
    (p.join name).isAbsolute = p.isAbsolute := by
  rw [join, if_neg (by simp [h])]
  cases hchars : p.text.toList with
  | nil =>
    have habsolute : p.isAbsolute = false := by simp [isAbsolute, hchars]
    have htext : p.text ++ name = name := by
      apply String.toList_inj.mp
      rw [String.toList_append, hchars, List.nil_append]
    rw [if_pos (by rfl), htext, h, habsolute]
  | cons c cs =>
    split <;> simp [isAbsolute, String.toList_append, hchars]

lemma namesFolder_of_pieces {front : List (List Char)} {last : List Char}
    (h : p.pieces = front ++ [last]) (hfront : front ≠ []) : p.namesFolder = isIdle last := by
  rw [namesFolder, h, List.reverse_append, List.reverse_singleton, List.singleton_append]
  cases hreverse : front.reverse with
  | nil => exact absurd (List.reverse_eq_nil_iff.mp hreverse) hfront
  | cons s ss => rfl

lemma namesFolder_join (p : Path) (h : IsStep name) : (p.join name).namesFolder = false := by
  obtain ⟨front, hpieces, -⟩ := exists_pieces_join p (isAbsolute_of_isStep h)
  rw [pieces_of_isStep h] at hpieces
  by_cases hfront : front = []
  · rw [namesFolder, hpieces, hfront]
    rfl
  · rw [namesFolder_of_pieces hpieces hfront, h.notIdle]

end Path

lemma isStep_dotted {stem extension : String} (hstem : stem ≠ "") (hpoint : '.' ∉ stem.toList)
    (hslash : '/' ∉ stem.toList) (hslash' : '/' ∉ extension.toList) :
    Path.IsStep (stem ++ "." ++ extension) := by
  obtain ⟨c, hc⟩ := List.exists_mem_of_ne_nil stem.toList fun hnil =>
    hstem (String.toList_inj.mp hnil)
  refine Path.isStep_of_mem (c := c) ?_ (by simp [hc]) fun h => hpoint (h ▸ hc)
  rw [toList_dotted, List.mem_append, List.mem_cons]
  rintro (h | h | h)
  · exact hslash h
  · cases h
  · exact hslash' h

/-- A dotted name with slashes in it leads through a folder, which the stem begins, or names one. -/
lemma exists_steps_dotted (p : Path) {stem : String} (hstem : stem ≠ "")
    (hpoint : '.' ∉ stem.toList) (hslash : '/' ∉ stem.toList) (format : String) :
    Path.isAbsolute ⟨stem ++ "." ++ format⟩ = false ∧
      ∃ extension rest, Path.steps ⟨stem ++ "." ++ format⟩ = (stem ++ "." ++ extension) :: rest ∧
        '/' ∉ extension.toList ∧
        (rest = [] → (p.join (stem ++ "." ++ format)).namesFolder = false →
          extension = format) := by
  have habsolute : Path.isAbsolute ⟨stem ++ "." ++ format⟩ = false := by
    unfold Path.isAbsolute
    rw [toList_dotted]
    cases hchars : stem.toList with
    | nil => exact absurd (String.toList_inj.mp hchars) hstem
    | cons c cs =>
      rw [hchars, List.mem_cons, not_or] at hslash
      simpa using Ne.symm hslash.1
  refine ⟨habsolute, ?_⟩
  obtain ⟨first, others, hformat, hfirst, hwhole⟩ := Text.exists_pieces_eq '/' format.toList
  have hpieces : Path.pieces ⟨stem ++ "." ++ format⟩ =
      (stem ++ "." ++ String.ofList first).toList :: others := by
    rw [Path.pieces, toList_dotted, toList_dotted, String.toList_ofList]
    have hfront : '/' ∉ stem.toList ++ ['.'] := by simp [hslash]
    have h := Text.pieces_append_of_not_mem hfront hformat
    rwa [List.append_assoc, List.append_assoc] at h
  have hstep : Path.IsStep (stem ++ "." ++ String.ofList first) :=
    isStep_dotted hstem hpoint hslash (by simpa)
  refine ⟨String.ofList first, (others.filter fun s => !Path.isIdle s).map String.ofList, ?_,
    by simpa, fun hnone hfolder => ?_⟩
  · rw [Path.steps, hpieces, List.filter_cons_of_pos (by rw [hstep.notIdle]; rfl), List.map_cons,
      String.ofList_toList]
  · obtain ⟨front, hjoin, -⟩ := Path.exists_pieces_join p habsolute
    rw [List.map_eq_nil_iff, List.filter_eq_nil_iff] at hnone
    -- The last of several pieces would be idle.
    have hothers : others = [] := by
      rcases List.eq_nil_or_concat others with hnil | ⟨before, last, hconcat⟩
      · exact hnil
      · rw [List.concat_eq_append] at hconcat
        subst hconcat
        have hidle : Path.isIdle last = true := by simpa using hnone last (by simp)
        have hlast : (p.join (stem ++ "." ++ format)).pieces =
            (front ++ (stem ++ "." ++ String.ofList first).toList :: before) ++ [last] := by
          rw [hjoin, hpieces, List.append_assoc, List.cons_append]
        rw [Path.namesFolder_of_pieces hlast (by simp), hidle] at hfolder
        cases hfolder
    rw [← String.ofList_toList (s := format), hwhole hothers]

end Paths

end MailMerge
