import Mathlib.Data.List.TakeWhile
import RowSelection.Declaration.LiteralForm

set_option autoImplicit false

namespace RowSelection.Declaration

theorem is_blank_iff (c : Char) : isBlank c = true ↔ c = ' ' ∨ c = '\t' ∨ c = '\r' ∨ c = '\n' := by
  simp [isBlank, or_assoc]

theorem skip_blanks_append {blanks : List Char} (before : Blanks blanks) (text : List Char) :
    skipBlanks (blanks ++ text) = skipBlanks text :=
  List.dropWhile_append_of_pos fun c member => (is_blank_iff c).mpr (before c member)

theorem skip_blanks_split (text : List Char) : ∃ blanks, Blanks blanks ∧ text = blanks ++ skipBlanks text := by
  refine ⟨text.takeWhile isBlank, ?_, List.takeWhile_append_dropWhile.symm⟩
  intro c member
  exact (is_blank_iff c).mp (List.mem_takeWhile_imp member)

theorem skip_blanks_cons {c : Char} (rest : List Char) (solid : isBlank c = false) :
    skipBlanks (c :: rest) = c :: rest := by
  simp [skipBlanks, solid]

def laterTokens (names : List (List Char)) : List Token :=
  names.flatMap (fun name => [.comma, .literal name]) ++ [.closing]

theorem member_tokens_cons (name : List Char) (rest : List (List Char)) :
    memberTokens (name :: rest) = .literal name :: laterTokens rest := by
  have members : ((name :: rest).map Token.literal).intersperse .comma =
      .literal name :: rest.flatMap fun name => [.comma, .literal name] := by
    induction rest generalizing name with
    | nil => rfl
    | cons next rest ih =>
        rw [List.flatMap_cons, List.cons_append, List.singleton_append, ← ih]
        rfl
  rw [memberTokens, members]
  rfl

theorem first_next_closing {blanks : List Char} (before : Blanks blanks) (rest : List Char) :
    firstNext (blanks ++ ']' :: rest) = .ok (.done rest) := by
  simp [firstNext, skip_blanks_append before, skip_blanks_cons rest (show isBlank ']' = false from rfl)]

theorem first_next_literal {blanks : List Char} (before : Blanks blanks) (rest : List Char) :
    firstNext (blanks ++ '"' :: rest) = .ok (.member ('"' :: rest)) := by
  simp [firstNext, skip_blanks_append before, skip_blanks_cons rest (show isBlank '"' = false from rfl)]

theorem later_next_closing {blanks : List Char} (before : Blanks blanks) (rest : List Char) :
    laterNext (blanks ++ ']' :: rest) = .ok (.done rest) := by
  simp [laterNext, skip_blanks_append before, skip_blanks_cons rest (show isBlank ']' = false from rfl)]

theorem later_next_literal {blanks others : List Char} (before : Blanks blanks) (behind : Blanks others)
    (rest : List Char) : laterNext (blanks ++ ',' :: (others ++ '"' :: rest)) = .ok (.member ('"' :: rest)) := by
  simp [laterNext, skip_blanks_append before, skip_blanks_append behind,
    skip_blanks_cons _ (show isBlank ',' = false from rfl), skip_blanks_cons _ (show isBlank '"' = false from rfl)]

theorem read_members_done {text rest : List Char} (next : laterNext text = .ok (.done rest)) :
    readMembers text = .ok ([], rest) := by
  rw [readMembers]
  split <;> simp_all

theorem read_members_member {text start rest name : List Char}
    (next : laterNext text = .ok (.member start)) (member : readName start = .ok (name, rest)) :
    readMembers text = prependName name (readMembers rest) := by
  rw [readMembers]
  split <;> simp_all
  split <;> simp_all

theorem read_members_of_spaced {names : List (List Char)} {list : List Char} (spaced : Spaced (laterTokens names) list)
    (rest : List Char) : readMembers (list ++ rest) = .ok (names, rest) := by
  induction names generalizing list with
  | nil =>
      cases spaced with
      | cons before first others =>
          cases first
          cases others
          rw [List.append_assoc]
          exact read_members_done (later_next_closing before rest)
  | cons name names ih =>
      cases spaced with
      | cons before first others =>
          cases first
          cases others with
          | @cons _ _ _ form later behind literal others =>
              have member := read_name_of_form literal (later ++ rest)
              cases literal with
              | @literal _ body inside =>
                  have next := later_next_literal before behind (body ++ '"' :: (later ++ rest))
                  simp only [List.append_assoc, List.cons_append, List.nil_append] at member next ⊢
                  rw [read_members_member next member, ih others]
                  rfl

theorem first_next_done {text rest : List Char} (next : firstNext text = .ok (.done rest)) :
    ∃ blanks, Blanks blanks ∧ text = blanks ++ ']' :: rest := by
  obtain ⟨blanks, before, same⟩ := skip_blanks_split text
  unfold firstNext at next
  split at next
  · cases next
  · rename_i closed
    cases next
    exact ⟨blanks, before, closed ▸ same⟩
  · cases next

theorem first_next_member {text start : List Char} (next : firstNext text = .ok (.member start)) :
    ∃ blanks, Blanks blanks ∧ text = blanks ++ start := by
  obtain ⟨blanks, before, same⟩ := skip_blanks_split text
  unfold firstNext at next
  split at next
  · cases next
  · cases next
  · cases next
    exact ⟨blanks, before, same⟩

theorem later_next_done {text rest : List Char} (next : laterNext text = .ok (.done rest)) :
    ∃ blanks, Blanks blanks ∧ text = blanks ++ ']' :: rest := by
  obtain ⟨blanks, before, same⟩ := skip_blanks_split text
  refine ⟨blanks, before, ?_⟩
  unfold laterNext at next
  split at next
  · cases next
  · rename_i closed
    cases next
    rw [← closed]
    exact same
  · split at next <;> cases next
  · cases next

theorem later_next_member {text start : List Char} (next : laterNext text = .ok (.member start)) :
    ∃ blanks others, Blanks blanks ∧ Blanks others ∧ text = blanks ++ ',' :: (others ++ start) := by
  obtain ⟨blanks, before, same⟩ := skip_blanks_split text
  unfold laterNext at next
  split at next
  · cases next
  · cases next
  · rename_i rest comma
    obtain ⟨others, behind, again⟩ := skip_blanks_split rest
    refine ⟨blanks, others, before, behind, ?_⟩
    split at next
    · cases next
    · cases next
    · cases next
      rw [← again, ← comma]
      exact same
  · cases next

theorem of_prepended {name : List Char} {read : Read (List (List Char))} {names : List (List Char)} {rest : List Char}
    (made : prependName name read = .ok (names, rest)) : ∃ later, read = .ok (later, rest) ∧ names = name :: later := by
  cases read with
  | error fault => cases made
  | ok result =>
      cases made
      exact ⟨_, rfl, rfl⟩

theorem spaced_of_read_members {text rest : List Char} {names : List (List Char)}
    (read : readMembers text = .ok (names, rest)) :
    ∃ list, text = list ++ rest ∧ Spaced (laterTokens names) list := by
  fun_induction readMembers text generalizing names with
  | case1 => cases read
  | case2 text behind next =>
      cases read
      obtain ⟨blanks, before, rfl⟩ := later_next_done next
      exact ⟨blanks ++ ([']'] ++ []), by simp, .cons before .closing .nil⟩
  | case3 => cases read
  | case4 text start next name behind member ih =>
      obtain ⟨later, deeper, rfl⟩ := of_prepended read
      obtain ⟨list, rfl, spaced⟩ := ih deeper
      obtain ⟨form, rfl, literal⟩ := form_of_read_name member
      obtain ⟨blanks, others, before, between, rfl⟩ := later_next_member next
      exact ⟨_, by simp, .cons before .comma (.cons between literal spaced)⟩

theorem read_list_of_spaced {names : List (List Char)} {list : List Char} (spaced : Spaced (memberTokens names) list)
    (rest : List Char) : readList (list ++ rest) = .ok (names, rest) := by
  cases names with
  | nil =>
      cases spaced with
      | cons before first others =>
          cases first
          cases others
          have next := first_next_closing before rest
          simp only [List.append_assoc, List.cons_append, List.nil_append] at next ⊢
          rw [readList, next]
  | cons name names =>
      rw [member_tokens_cons] at spaced
      cases spaced with
      | @cons _ _ _ form later before literal others =>
          have member := read_name_of_form literal (later ++ rest)
          cases literal with
          | @literal _ body inside =>
              have next := first_next_literal before (body ++ '"' :: (later ++ rest))
              simp only [List.append_assoc, List.cons_append, List.nil_append] at member next ⊢
              simp only [readList, next, member, read_members_of_spaced others]
              rfl

theorem spaced_of_read_list {text rest : List Char} {names : List (List Char)} (read : readList text = .ok (names, rest)) :
    ∃ list, text = list ++ rest ∧ Spaced (memberTokens names) list := by
  unfold readList at read
  split at read
  · cases read
  · rename_i next
    cases read
    obtain ⟨blanks, before, rfl⟩ := first_next_done next
    exact ⟨blanks ++ ([']'] ++ []), by simp, .cons before .closing .nil⟩
  · rename_i next
    split at read
    · cases read
    · rename_i member
      obtain ⟨later, deeper, rfl⟩ := of_prepended read
      obtain ⟨list, rfl, spaced⟩ := spaced_of_read_members deeper
      obtain ⟨form, rfl, literal⟩ := form_of_read_name member
      obtain ⟨blanks, before, rfl⟩ := first_next_member next
      rw [member_tokens_cons]
      exact ⟨_, by simp, .cons before literal spaced⟩

theorem skip_blanks_eq_nil_iff (text : List Char) : skipBlanks text = [] ↔ Blanks text := by
  simp only [skipBlanks, List.dropWhile_eq_nil_iff, is_blank_iff, Blanks]

theorem read_all_of_form {names : List (List Char)} {text : List Char} (form : ListForm names text) :
    readAll text = .ok names := by
  obtain ⟨spaced, behind⟩ := form
  rename_i left
  cases spaced with
  | @cons _ _ _ _ later before first others =>
      cases first
      have opened := skip_blanks_append before ('[' :: (later ++ left))
      have listed := read_list_of_spaced others left
      have ended := (skip_blanks_eq_nil_iff left).mpr behind
      rw [skip_blanks_cons _ (show isBlank '[' = false from rfl)] at opened
      simp only [List.append_assoc, List.cons_append, List.nil_append]
      simp only [readAll, opened, listed, ended]

theorem form_of_read_all {text : List Char} {names : List (List Char)} (read : readAll text = .ok names) :
    ListForm names text := by
  obtain ⟨blanks, before, same⟩ := skip_blanks_split text
  unfold readAll at read
  split at read
  · cases read
  · rename_i opened
    split at read
    · cases read
    · rename_i _ rest listed
      split at read
      · rename_i ended
        cases read
        obtain ⟨list, rfl, spaced⟩ := spaced_of_read_list listed
        have behind := (skip_blanks_eq_nil_iff rest).mp ended
        have shape : text = blanks ++ (['['] ++ list) ++ rest := by
          rw [same, opened, List.append_assoc]
          rfl
        rw [shape]
        exact .mk (.cons before .opening spaced) behind
      · cases read
  · cases read

theorem read_iff_denotes (text : String) (names : List String) : read text = .ok names ↔ Denotes text names := by
  unfold read Denotes
  constructor
  · intro done
    cases listed : readAll text.toList with
    | error fault =>
        rw [listed] at done
        cases done
    | ok lists =>
        rw [listed] at done
        cases done
        have form := form_of_read_all listed
        simpa [Function.comp_def] using form
  · intro form
    rw [read_all_of_form form]
    simp [Except.map, Function.comp_def]

theorem read_error_iff (text : String) : (∃ fault, read text = .error fault) ↔ ¬ ∃ names, Denotes text names := by
  simp only [← read_iff_denotes]
  cases read text <;> simp

theorem denotes_unique {text : String} {names others : List String} (first : Denotes text names)
    (second : Denotes text others) : others = names := by
  have read := (read_iff_denotes text names).mpr first
  have again := (read_iff_denotes text others).mpr second
  exact Except.ok.inj (again.symm.trans read)

end RowSelection.Declaration
