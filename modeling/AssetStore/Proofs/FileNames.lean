import Mathlib.Data.List.Infix
import AssetStore.Disk.Path
/-!
# File names and extensions of paths

A path's parts are the stretches between its slashes, and its file name is one of them; an
extension is what follows the last dot of a file name. So a path's extension, together with the
dot before it, is a stretch of the path's characters (`Disk.Path.extension?_contiguous`). Conversely
a path without slashes whose only dot follows a non-empty stem is its own file name, and its
extension is what follows that dot (`Disk.Path.extension?_ofList`).
-/

namespace AssetStore.Disk.Path

variable {α : Type}

theorem infix_of_mem_intercalate {sep : α} {pieces : List (List α)} {piece : List α}
    (member : piece ∈ pieces) : piece <:+: [sep].intercalate pieces := by
  induction pieces with
  | nil => cases member
  | cons first rest inductionHypothesis =>
    cases rest with
    | nil =>
      rw [List.mem_singleton.mp member, List.intercalate_singleton]
    | cons second others =>
      rw [List.intercalate_cons_cons]
      rcases List.mem_cons.mp member with rfl | later
      · exact List.infix_append_left.trans (List.infix_append_left)
      · exact List.infix_append_of_infix_right (inductionHypothesis later)

theorem infix_of_mem_splitOn [DecidableEq α] {sep : α} {text piece : List α}
    (member : piece ∈ text.splitOn sep) : piece <:+: text := by
  have whole : [sep].intercalate (text.splitOn sep) = text := List.intercalate_splitOn sep
  rw [← whole]
  exact infix_of_mem_intercalate member

theorem intercalate_append_singleton {sep : α} (front : List (List α)) (last : List α)
    (present : front ≠ []) :
    [sep].intercalate (front ++ [last]) = [sep].intercalate front ++ sep :: last := by
  induction front with
  | nil => exact absurd rfl present
  | cons first rest inductionHypothesis =>
    cases rest with
    | nil => simp [List.intercalate_cons_cons]
    | cons second others =>
      rw [List.cons_append, List.intercalate_cons_of_ne_nil (by simp),
        inductionHypothesis (List.cons_ne_nil _ _), List.intercalate_cons_of_ne_nil (List.cons_ne_nil _ _),
        List.append_assoc, List.append_assoc, List.append_assoc]

theorem mem_parts_of_mem_components {p name : String} (member : name ∈ components p)
    (notDot : name ≠ ".") : name ∈ parts p := by
  unfold components at member
  split at member
  · cases member
  · rename_i first rest whole
    rw [whole]
    have named : ∀ n, n ∈ rest.filter (fun part => part != "" && part != ".") → n ∈ first :: rest :=
      fun n kept => List.mem_cons_of_mem first (List.mem_filter.mp kept).1
    split at member
    · rcases List.mem_cons.mp member with same | kept
      · exact absurd same notDot
      · exact named name kept
    · split at member
      · exact named name member
      · rcases List.mem_cons.mp member with rfl | kept
        · exact List.mem_cons_self
        · exact named name kept

/-- A path's file name is a stretch of its characters. -/
theorem fileName?_contiguous {p name : String} (named : fileName? p = some name) :
    name.toList <:+: p.toList := by
  unfold fileName? at named
  split at named
  · rename_i last isLast
    split at named
    · cases named
    · rename_i ordinary
      cases named
      have notDot : name ≠ "." := fun same => ordinary (by simp [same])
      obtain ⟨piece, member, rfl⟩ := List.mem_map.mp
        (mem_parts_of_mem_components (List.mem_of_getLast? isLast) notDot)
      rw [String.toList_ofList]
      exact infix_of_mem_splitOn member
  · cases named

/-- An extension stands after a dot at the end of its file name. -/
theorem extensionOfName?_suffix {name ext : String} (found : extensionOfName? name = some ext) :
    ('.' :: ext.toList) <:+ name.toList := by
  unfold extensionOfName? at found
  split at found
  · cases found
  · split at found
    · rename_i after before earlier pieces
      dsimp only at found
      split at found
      · cases found
      · cases found
        unfold splitAt at pieces
        rw [← List.map_reverse, List.map_eq_cons_iff] at pieces
        obtain ⟨lastPiece, rest, reversed, rfl, restPieces⟩ := pieces
        obtain ⟨beforePiece, earlierPieces, restEq, -, -⟩ := List.map_eq_cons_iff.mp restPieces
        rw [restEq, List.reverse_eq_cons_iff] at reversed
        have whole : ['.'].intercalate (name.toList.splitOn '.') = name.toList :=
          List.intercalate_splitOn '.'
        rw [reversed, intercalate_append_singleton _ _ (by simp)] at whole
        rw [String.toList_ofList]
        exact ⟨_, whole⟩
    · cases found

theorem extension?_contiguous {p ext : String} (found : extension? p = some ext) :
    ('.' :: ext.toList) <:+: p.toList := by
  obtain ⟨name, named, extended⟩ := Option.bind_eq_some_iff.mp found
  exact (extensionOfName?_suffix extended).isInfix.trans (fileName?_contiguous named)

theorem parts_of_no_slash {text : List Char} (noSlash : '/' ∉ text) :
    parts (String.ofList text) = [String.ofList text] := by
  rw [parts, splitAt, String.toList_ofList, List.splitOn_eq_singleton noSlash, List.map_singleton]

/-- A file name without `/` whose only dot follows a non-empty stem has what follows the dot as
its extension. -/
theorem extension?_ofList {stem ext : List Char} (stemPlain : '/' ∉ stem ∧ '.' ∉ stem)
    (extPlain : '/' ∉ ext ∧ '.' ∉ ext) (present : stem ≠ []) :
    extension? (String.ofList (stem ++ '.' :: ext)) = some (String.ofList ext) := by
  have noSlash : '/' ∉ stem ++ '.' :: ext := by simp [stemPlain.1, extPlain.1]
  have long : 2 ≤ (stem ++ '.' :: ext).length := by
    have := List.length_pos_of_ne_nil present
    simp
    omega
  have notShort : ∀ s : String, s.toList.length < 2 → String.ofList (stem ++ '.' :: ext) ≠ s :=
    fun s short same => by
      rw [← same, String.toList_ofList] at short
      omega
  have notDot := notShort "." (by decide)
  have notEmpty := notShort "" (by decide)
  have notDots : String.ofList (stem ++ '.' :: ext) ≠ ".." := by
    obtain ⟨first, rest, rfl⟩ := List.exists_cons_of_ne_nil present
    intro same
    have heads := congrArg (fun s : String => s.toList.head?) same
    simp only [String.toList_ofList, List.cons_append, List.head?_cons] at heads
    exact stemPlain.2 (by rw [Option.some.inj heads]; exact List.mem_cons_self)
  have named :
      fileName? (String.ofList (stem ++ '.' :: ext)) = some (String.ofList (stem ++ '.' :: ext)) := by
    rw [fileName?, components, parts_of_no_slash noSlash]
    generalize String.ofList (stem ++ '.' :: ext) = name at notDot notDots notEmpty ⊢
    simp [notDot, notDots, notEmpty]
  have pieces :
      splitAt '.' (String.ofList (stem ++ '.' :: ext)) = [String.ofList stem, String.ofList ext] := by
    rw [splitAt, String.toList_ofList, List.splitOn_append_cons_self_of_not_mem stemPlain.2,
      List.splitOn_eq_singleton extPlain.2]
    rfl
  rw [extension?, named, Option.bind_some, extensionOfName?, if_neg (by simpa using notDots), pieces]
  simp [present]

end AssetStore.Disk.Path
