import Mathlib.Data.List.Nodup
import MaximalMunch.Grammar

/-!
Adding a token type. It is refused when it has no name, when its expression is refused and when its
name is taken, in this order, and otherwise stands behind all others under a name that was free.
-/

namespace MaximalMunch

theorem TokenType.make_self (t : TokenType) : make t.name t.regex = .ok t := by
  rw [make, dif_neg t.named]
  split
  · next e failed =>
      rw [t.compiled] at failed
      contradiction
  · next program compiled => exact congrArg Except.ok (ext_name_regex rfl rfl)

/-- What tells a token type from all others. -/
def TokenType.pair (t : TokenType) : Text × Text := (t.name, t.regex)

namespace Grammar

variable {g g' : Grammar} {t : TokenType} {name regex : Text} {e e' : GrammarError}

theorem make_ok (h : TokenType.make name regex = .ok t) : t.name = name ∧ t.regex = regex := by
  rw [TokenType.make] at h
  split at h
  case isTrue => cases h
  case isFalse =>
    split at h
    case h_1 => cases h
    case h_2 =>
      obtain rfl := Except.ok.inj h
      exact ⟨rfl, rfl⟩

theorem contains_iff (g : Grammar) (name : Text) : g.contains name = true ↔ name ∈ g.names := by
  simp [contains, names]

theorem names_concat (g : Grammar) (t : TokenType) :
    names ⟨g.types ++ [t], g.trimming⟩ = g.names ++ [t.name] := by
  simp [names]

theorem free_of_apart {taken rest : List Text} (apart : (taken ++ name :: rest).Nodup) :
    name ∉ taken := by
  intro there
  exact (List.nodup_cons.mp (List.nodup_middle.mp apart)).1 (List.mem_append_left _ there)

theorem distinct_empty (trimming : Bool) : (empty trimming).names.Nodup := List.nodup_nil

theorem distinct_concat (distinct : g.names.Nodup) (free : t.name ∉ g.names) :
    (names ⟨g.types ++ [t], g.trimming⟩).Nodup := by
  rw [names_concat]
  exact List.nodup_append_comm.mp (List.nodup_cons.mpr ⟨free, distinct⟩)

/-! ### In place -/

/-- Why a token type is not added next to types of these names. -/
inductive Refuses (taken : List Text) (name regex : Text) : GrammarError → Prop where
  | unnamed (missing : name = []) : Refuses taken name regex .unnamed
  | pattern (fault : Pattern.Error) (named : name ≠ [])
      (failed : Pattern.compile regex = .error fault) :
      Refuses taken name regex (.pattern name regex fault)
  | duplicate (program : Pattern.Program) (named : name ≠ [])
      (compiled : Pattern.compile regex = .ok program) (there : name ∈ taken) :
      Refuses taken name regex (.duplicate name)

/-- How adding a token type comes out, and the grammar that it leaves. -/
inductive Addition (g : Grammar) (name regex : Text) :
    EStateM.Result GrammarError Grammar TokenType → Prop where
  | refused (e : GrammarError) (why : Refuses g.names name regex e) :
      Addition g name regex (.error e g)
  | added (t : TokenType) (isName : t.name = name) (isRegex : t.regex = regex)
      (free : name ∉ g.names) : Addition g name regex (.ok t ⟨g.types ++ [t], g.trimming⟩)

theorem addIn_of_error (refused : TokenType.make name regex = .error e) (g : Grammar) :
    (addIn name regex).run g = .error e g := by
  rw [addIn, refused]
  rfl

theorem registerIn_run (t : TokenType) (g : Grammar) :
    (registerIn t).run g =
      if t.name ∈ g.names then .error (.duplicate t.name) g
      else .ok () ⟨g.types ++ [t], g.trimming⟩ := by
  by_cases taken : t.name ∈ g.names
  · have there : g.contains t.name = true := (g.contains_iff _).mpr taken
    simp [registerIn, there, taken]
  · have missing : g.contains t.name = false := by simpa [← contains_iff] using taken
    simp [registerIn, missing, taken]

theorem addIn_of_ok (made : TokenType.make name regex = .ok t) (g : Grammar) :
    (addIn name regex).run g =
      if name ∈ g.names then .error (.duplicate name) g
      else .ok t ⟨g.types ++ [t], g.trimming⟩ := by
  obtain ⟨rfl, _⟩ := make_ok made
  rw [addIn, made]
  simp only [MonadExcept.ofExcept, pure_bind, EStateM.run_bind, registerIn_run]
  by_cases taken : t.name ∈ g.names
  · rw [if_pos taken, if_pos taken]
  · rw [if_neg taken, if_neg taken]
    rfl

theorem addIn_addition (g : Grammar) (name regex : Text) :
    g.Addition name regex ((addIn name regex).run g) := by
  cases made : TokenType.make name regex with
  | error e =>
      rw [addIn_of_error made]
      apply Addition.refused
      rw [TokenType.make] at made
      split at made
      case isTrue missing =>
        cases made
        exact .unnamed missing
      case isFalse named =>
        split at made
        case h_1 fault failed =>
          cases made
          exact .pattern fault named failed
        case h_2 => cases made
  | ok t =>
      obtain ⟨isName, isRegex⟩ := make_ok made
      rw [addIn_of_ok made]
      by_cases taken : name ∈ g.names
      · rw [if_pos taken]
        apply Addition.refused
        refine .duplicate t.program ?_ ?_ taken
        · exact isName ▸ t.named
        · exact isRegex ▸ t.compiled
      · rw [if_neg taken]
        exact .added t isName isRegex taken

/-- A new grammar is given instead of changing the old one. -/
theorem add_eq (g : Grammar) (name regex : Text) :
    g.add name regex =
      match (addIn name regex).run g with
      | .ok _ g' => .ok g'
      | .error e _ => .error e := by
  rw [add]
  cases made : TokenType.make name regex with
  | error e => rw [addIn_of_error made]
  | ok t =>
      obtain ⟨rfl, _⟩ := make_ok made
      rw [addIn_of_ok made]
      simp only [register, contains_iff]
      by_cases taken : t.name ∈ g.names
      · rw [if_pos taken, if_pos taken]
      · rw [if_neg taken, if_neg taken]

theorem Refuses.unique {taken : List Text} (h : Refuses taken name regex e)
    (k : Refuses taken name regex e') : e = e' := by
  cases h with
  | unnamed missing =>
      cases k with
      | unnamed => rfl
      | pattern _ named | duplicate _ named => exact absurd missing named
  | pattern fault named failed =>
      cases k with
      | unnamed missing => exact absurd missing named
      | pattern other _ failed' =>
          rw [failed] at failed'
          cases failed'
          rfl
      | duplicate _ _ compiled =>
          rw [failed] at compiled
          contradiction
  | duplicate program named compiled there =>
      cases k with
      | unnamed missing => exact absurd missing named
      | pattern _ _ failed =>
          rw [failed] at compiled
          contradiction
      | duplicate => rfl

/-- Nothing is refused that could be added. -/
theorem Refuses.taken {taken : List Text} (h : Refuses taken t.name t.regex e) :
    t.name ∈ taken := by
  cases h with
  | unnamed missing => exact absurd missing t.named
  | pattern fault named failed =>
      rw [t.compiled] at failed
      contradiction
  | duplicate program named compiled there => exact there

/-! ### Into a new grammar -/

/-- A token type that could be made is added unless its name is taken. -/
theorem add_made (made : TokenType.make name regex = .ok t) (g : Grammar) :
    g.add name regex =
      if name ∈ g.names then .error (.duplicate name) else .ok { g with types := g.types ++ [t] } := by
  rw [add_eq, addIn_of_ok made]
  by_cases taken : name ∈ g.names
  · rw [if_pos taken, if_pos taken]
  · rw [if_neg taken, if_neg taken]

theorem add_eq_error_iff : g.add name regex = .error e ↔ Refuses g.names name regex e := by
  have comes := g.addIn_addition name regex
  rw [add_eq]
  generalize (addIn name regex).run g = r at comes
  cases comes with
  | refused e' why =>
      constructor
      · rintro ⟨⟩
        exact why
      · intro h
        rw [why.unique h]
  | added t isName isRegex free =>
      constructor
      · intro h
        contradiction
      · intro h
        subst isName isRegex
        exact absurd h.taken free

theorem add_eq_ok_iff :
    g.add name regex = .ok g' ↔
      ∃ t : TokenType, t.name = name ∧ t.regex = regex ∧ name ∉ g.names ∧
        g' = ⟨g.types ++ [t], g.trimming⟩ := by
  constructor
  · intro h
    have comes := g.addIn_addition name regex
    rw [add_eq] at h
    generalize (addIn name regex).run g = r at comes h
    cases comes with
    | refused e why => contradiction
    | added t isName isRegex free => exact ⟨t, isName, isRegex, free, (Except.ok.inj h).symm⟩
  · rintro ⟨t, rfl, rfl, free, rfl⟩
    rw [add_made t.make_self, if_neg free]

theorem add_of_fresh (fresh : t.name ∉ g.names) :
    g.add t.name t.regex = .ok ⟨g.types ++ [t], g.trimming⟩ :=
  add_eq_ok_iff.mpr ⟨t, rfl, rfl, fresh, rfl⟩

/-- An added pair is the last token type of the grammar, under a name that was free. -/
theorem add_ok (h : g.add name regex = .ok g') : name ∉ g.names ∧ g'.names = g.names ++ [name] := by
  obtain ⟨t, rfl, rfl, free, rfl⟩ := add_eq_ok_iff.mp h
  exact ⟨free, names_concat g t⟩

theorem add_distinct (distinct : g.names.Nodup) (h : g.add name regex = .ok g') : g'.names.Nodup := by
  obtain ⟨t, rfl, rfl, free, rfl⟩ := add_eq_ok_iff.mp h
  exact distinct_concat distinct free

/-- A name that is free is never refused as taken. -/
theorem add_ne_duplicate (free : name ∉ g.names) (regex taken : Text) :
    g.add name regex ≠ .error (.duplicate taken) := by
  rw [Ne, add_eq_error_iff]
  intro refused
  cases refused with
  | duplicate _ _ _ there => exact free there

/-! ### Pair after pair -/

/-- Adds the token types of all pairs, up to the first that is refused. -/
def addPairs (g : Grammar) : List (Text × Text) → Except GrammarError Grammar
  | [] => .ok g
  | pair :: rest =>
    match g.add pair.1 pair.2 with
    | .error e => .error e
    | .ok g => g.addPairs rest

theorem addPairs_names {g g' : Grammar} {pairs : List (Text × Text)}
    (h : g.addPairs pairs = .ok g') (once : g.names.Nodup) :
    g'.names = g.names ++ pairs.map (·.1) ∧ g'.names.Nodup := by
  induction pairs generalizing g with
  | nil =>
      obtain rfl := Except.ok.inj h
      simpa using once
  | cons pair pairs ih =>
      rw [addPairs] at h
      split at h
      case h_1 => cases h
      case h_2 next added =>
        obtain ⟨_, names⟩ := add_ok added
        obtain ⟨all, allOnce⟩ := ih h (add_distinct once added)
        refine ⟨?_, allOnce⟩
        rw [all, names, List.append_assoc]
        rfl

/-- The name and the expression of a token type make it again, so a grammar is what its own pairs
add up to. -/
theorem addPairs_types {g : Grammar} {types : List TokenType}
    (once : (g.names ++ types.map (·.name)).Nodup) :
    g.addPairs (types.map fun t => (t.name, t.regex)) = .ok ⟨g.types ++ types, g.trimming⟩ := by
  induction types generalizing g with
  | nil => simp [addPairs]
  | cons t types ih =>
      have free : t.name ∉ g.names := free_of_apart once
      have further : (names ⟨g.types ++ [t], g.trimming⟩ ++ types.map (·.name)).Nodup := by
        rw [names_concat]
        simpa using once
      rw [List.map_cons, addPairs, add_of_fresh free]
      exact (ih further).trans (by simp)

theorem addPairs_ne_duplicate {g : Grammar} {pairs : List (Text × Text)}
    (once : (g.names ++ pairs.map (·.1)).Nodup) (taken : Text) :
    g.addPairs pairs ≠ .error (.duplicate taken) := by
  induction pairs generalizing g with
  | nil => exact fun h => nomatch h
  | cons pair pairs ih =>
      have free : pair.1 ∉ g.names := free_of_apart once
      rw [addPairs]
      cases added : g.add pair.1 pair.2 with
      | error e =>
          rintro ⟨⟩
          exact add_ne_duplicate free _ _ added
      | ok next =>
          apply ih
          rw [(add_ok added).2, List.append_assoc]
          exact once

end Grammar
end MaximalMunch
