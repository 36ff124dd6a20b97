import MaximalMunch.Proofs.Keeps
import MaximalMunch.Yaml.Layout

/-!
The faults of symbols. Nearly all of them are malformed symbols; besides, an escape can name a
character that does not exist, and a version number can have more digits than a number may have.
-/

namespace MaximalMunch.Yaml

/-- The faults that reading symbols can end with. -/
inductive Fault.Lexical : Fault → Prop where
  | malformed : Lexical .malformed
  | pastUnicode : Lexical .codePointPastUnicode
  | tooLarge : Lexical .codePointTooLarge
  | numeral {digits : Nat} : Text.maxDigits < digits → Lexical (.numeralTooLong digits)

/-- The reading of a part of the text ends with a lexical fault if with any. -/
abbrev Lexes {α : Type} : Except Fault α → Prop := FailsWith Fault.Lexical

theorem lexes_malformed {α : Type} : Lexes (.error .malformed : Except Fault α) :=
  .error .malformed

section Quoted

theorem charOfCode_lexes (code : Nat) : Lexes (charOfCode code) := by
  rw [charOfCode]
  split
  · exact .ok trivial
  · split
    · exact .error .pastUnicode
    · exact .error .tooLarge

theorem foldedBreaks_lexes (fuel : Nat) (p : Place) : Lexes (foldedBreaks fuel p) := by
  induction fuel generalizing p with
  | zero => exact .ok trivial
  | succ fuel ih =>
      rw [foldedBreaks]
      split
      · exact lexes_malformed
      · dsimp only
        split
        · exact .ok trivial
        · exact (ih _).mapped

theorem quotedEscape_lexes (p : Place) : Lexes (quotedEscape p) := by
  rw [quotedEscape]
  split
  · exact lexes_malformed
  · split
    · exact .ok trivial
    · dsimp only
      split
      · exact (charOfCode_lexes _).mapped
      · exact lexes_malformed
    · split
      · exact foldedBreaks_lexes _ _
      · exact lexes_malformed

theorem quotedWord_lexes (double : Bool) (fuel : Nat) (p : Place) :
    Lexes (quotedWord double fuel p) := by
  induction fuel generalizing p with
  | zero => exact .ok trivial
  | succ fuel ih =>
      rw [quotedWord]
      dsimp only
      split
      · split
        · exact (ih _).mapped
        · split
          · exact (ih _).mapped
          · split
            · split
              case h_1 escape => exact .error ((quotedEscape_lexes _).of_error escape)
              case h_2 => exact (ih _).mapped
            · exact .ok trivial
      · exact .ok trivial

theorem quotedSpaces_lexes (p : Place) : Lexes (quotedSpaces p) := by
  rw [quotedSpaces]
  dsimp only
  split
  · exact lexes_malformed
  · split
    · exact (foldedBreaks_lexes _ _).mapped
    · exact .ok trivial

theorem quotedFrom_lexes (double : Bool) (fuel : Nat) (p : Place) :
    Lexes (quotedFrom double fuel p) := by
  induction fuel generalizing p with
  | zero => exact lexes_malformed
  | succ fuel ih =>
      rw [quotedFrom]
      refine .ite (fun _ => .ok trivial) fun _ => ?_
      · split
        case h_1 spaces => exact .error ((quotedSpaces_lexes _).of_error spaces)
        case h_2 =>
          split
          case h_1 word => exact .error ((quotedWord_lexes _ _ _).of_error word)
          case h_2 => exact (ih _).mapped

theorem quotedScalar_lexes (double : Bool) (p : Place) : Lexes (quotedScalar double p) := by
  rw [quotedScalar]
  split
  case h_1 word => exact .error ((quotedWord_lexes _ _ _).of_error word)
  case h_2 => exact (quotedFrom_lexes _ _ _).mapped

end Quoted

section Names

theorem anchorName_lexes (p : Place) : Lexes (anchorName p) := by
  rw [anchorName]
  dsimp only
  split
  · exact lexes_malformed
  · exact .ok trivial

theorem uriBytes_lexes (fuel : Nat) (p : Place) : Lexes (uriBytes fuel p) := by
  induction fuel generalizing p with
  | zero => exact .ok trivial
  | succ fuel ih =>
      rw [uriBytes]
      split
      · dsimp only
        split
        · exact (ih _).mapped
        · exact lexes_malformed
      · exact .ok trivial

theorem uriFrom_lexes (fuel : Nat) (p : Place) : Lexes (uriFrom fuel p) := by
  induction fuel generalizing p with
  | zero => exact .ok trivial
  | succ fuel ih =>
      rw [uriFrom]
      split
      · exact .ok trivial
      · split
        · split
          case h_1 bytes => exact .error ((uriBytes_lexes _ _).of_error bytes)
          case h_2 =>
            split
            · exact lexes_malformed
            · exact (ih _).mapped
        · split
          · exact (ih _).mapped
          · exact .ok trivial

theorem uri_lexes (p : Place) : Lexes (uri p) := by
  rw [uri]
  split
  case h_1 inside => exact .error ((uriFrom_lexes _ _).of_error inside)
  case h_2 =>
    split
    · exact lexes_malformed
    · exact .ok trivial

theorem tagHandle_lexes (p : Place) : Lexes (tagHandle p) := by
  rw [tagHandle]
  split
  · exact lexes_malformed
  · split
    · exact .ok trivial
    · dsimp only
      split
      · exact .ok trivial
      · exact lexes_malformed

/-- What ends where a word has to end. -/
theorem atWordEnd_lexes {α : Type} (p : Place) (a : α) :
    Lexes (if endsWord p.next then pure a else throw .malformed) :=
  .ite (fun _ => .ok trivial) fun _ => lexes_malformed

theorem tagSymbol_lexes (p : Place) : Lexes (tagSymbol p) := by
  rw [tagSymbol]
  dsimp only
  split
  · refine (uri_lexes _).bind fun r _ => ?_
    split
    · exact lexes_malformed
    · exact atWordEnd_lexes _ _
  split
  · exact atWordEnd_lexes _ _
  split
  · exact (tagHandle_lexes _).bind fun _ _ => (uri_lexes _).bind fun _ _ => atWordEnd_lexes _ _
  · exact (uri_lexes _).bind fun _ _ => atWordEnd_lexes _ _

theorem versionNumber_lexes (p : Place) : Lexes (versionNumber p) := by
  rw [versionNumber]
  dsimp only
  split
  · exact lexes_malformed
  · split
    case isTrue long => exact .error (.numeral long)
    case isFalse => exact .ok trivial

theorem versionDirective_lexes (p : Place) : Lexes (versionDirective p) := by
  refine (versionNumber_lexes _).bind fun major _ => ?_
  refine .ite (fun _ => lexes_malformed) fun _ => ?_
  exact (versionNumber_lexes _).bind fun minor _ => atWordEnd_lexes _ _

theorem handleDirective_lexes (p : Place) : Lexes (handleDirective p) := by
  refine (tagHandle_lexes _).bind fun handle _ => ?_
  refine .ite (fun _ => lexes_malformed) fun _ => ?_
  exact (uri_lexes _).bind fun expansion _ => atWordEnd_lexes _ _

/-- Behind a directive its line has to end. -/
theorem atLineEnd_lexes (d : Directive) (p : Place) :
    Lexes (match p.ignoredLine? with
      | some q => pure (Symbol.directive d, q)
      | none => throw Fault.malformed) := by
  split
  · exact .ok trivial
  · exact lexes_malformed

theorem directiveSymbol_lexes (p : Place) : Lexes (directiveSymbol p) := by
  rw [directiveSymbol]
  dsimp only
  split
  · exact lexes_malformed
  split
  · exact (versionDirective_lexes _).bind fun _ _ => atLineEnd_lexes _ _
  split
  · exact (handleDirective_lexes _).bind fun _ _ => atLineEnd_lexes _ _
  · exact atLineEnd_lexes _ _

end Names

theorem blockHeader_lexes (p : Place) : Lexes (blockHeader p) := by
  rw [blockHeader]
  refine .ite (fun _ => lexes_malformed) fun _ => ?_
  split
  · exact .ok trivial
  · exact lexes_malformed

theorem blockScalar_lexes (folds : Bool) (outer : Int) (p : Place) :
    Lexes (blockScalar folds outer p) := by
  rw [blockScalar]
  split
  case h_1 header => exact .error ((blockHeader_lexes _).of_error header)
  case h_2 => exact .ok trivial

namespace Layout

variable (s : Layout)

theorem giveUpKey_lexes : Lexes s.giveUpKey := by
  rw [giveUpKey]
  split
  · exact lexes_malformed
  · exact .ok trivial

theorem awaitKey_lexes : Lexes s.awaitKey := by
  rw [awaitKey]
  split
  · exact s.giveUpKey_lexes.mapped
  · exact .ok trivial

theorem beginBlock_lexes (symbol : Symbol) : Lexes (s.beginBlock symbol) := by
  rw [beginBlock]
  split
  · split
    · exact .ok trivial
    · exact lexes_malformed
  · exact .ok trivial

theorem prepare_lexes : Lexes s.prepare := by
  rw [prepare]
  refine Yields.mapped ?_
  rw [dropExpired]
  split
  · exact lexes_malformed
  · exact .ok trivial

theorem finish_lexes : Lexes s.finish := (giveUpKey_lexes _).mapped

theorem takeItem_lexes {read : Place → Except Fault (Symbol × Place)}
    (h : ∀ p, Lexes (read p)) : Lexes (s.takeItem read) :=
  s.awaitKey_lexes.bind fun _ _ => (h _).bind fun _ _ => .ok trivial

theorem takeDirective_lexes : Lexes s.takeDirective :=
  (giveUpKey_lexes _).bind fun _ _ => (directiveSymbol_lexes _).bind fun _ _ => .ok trivial

theorem takeColon_lexes : Lexes s.takeColon := by
  rw [takeColon]
  split
  · exact .ok trivial
  · exact (s.beginBlock_lexes _).bind fun _ _ => (giveUpKey_lexes _).bind fun _ _ => .ok trivial

theorem takeBlock_lexes (symbol : Symbol) (f : Layout → Layout) :
    Lexes (do
      let s ← s.beginBlock symbol
      let s ← s.giveUpKey
      return f s) :=
  (s.beginBlock_lexes _).bind fun _ _ => (giveUpKey_lexes _).bind fun _ _ => .ok trivial

theorem takeBlockScalar_lexes (folds : Bool) : Lexes (s.takeBlockScalar folds) :=
  (giveUpKey_lexes _).bind fun _ _ => (blockScalar_lexes _ _ _).bind fun _ _ => .ok trivial

theorem takeNext_lexes (c : Char) : Lexes (s.takeNext c) := by
  rw [takeNext]
  -- One kind of symbol after the other, in the order in which they are told apart.
  refine .ite (fun _ => s.takeDirective_lexes) fun _ => ?_
  refine .ite (fun _ => (giveUpKey_lexes _).bind fun _ _ => .ok trivial) fun _ => ?_
  refine .ite (fun _ => (giveUpKey_lexes _).bind fun _ _ => .ok trivial) fun _ => ?_
  refine .ite (fun _ => s.awaitKey_lexes.bind fun _ _ => .ok trivial) fun _ => ?_
  refine .ite (fun _ => s.awaitKey_lexes.bind fun _ _ => .ok trivial) fun _ => ?_
  refine .ite (fun _ => s.giveUpKey_lexes.bind fun _ _ => .ok trivial) fun _ => ?_
  refine .ite (fun _ => s.giveUpKey_lexes.bind fun _ _ => .ok trivial) fun _ => ?_
  refine .ite (fun _ => s.giveUpKey_lexes.bind fun _ _ => .ok trivial) fun _ => ?_
  refine .ite (fun _ => s.takeBlock_lexes _ _) fun _ => ?_
  refine .ite (fun _ => s.takeBlock_lexes _ _) fun _ => ?_
  refine .ite (fun _ => s.takeColon_lexes) fun _ => ?_
  refine .ite (fun _ => s.takeItem_lexes fun p => (anchorName_lexes p).mapped) fun _ => ?_
  refine .ite (fun _ => s.takeItem_lexes fun p => (anchorName_lexes p).mapped) fun _ => ?_
  refine .ite (fun _ => s.takeItem_lexes tagSymbol_lexes) fun _ => ?_
  refine .ite (fun _ => s.takeBlockScalar_lexes _) fun _ => ?_
  refine .ite (fun _ => s.takeBlockScalar_lexes _) fun _ => ?_
  refine .ite (fun _ => s.takeItem_lexes fun p => (quotedScalar_lexes _ p).mapped) fun _ => ?_
  refine .ite (fun _ => s.awaitKey_lexes.bind fun _ _ => .ok trivial) fun _ => ?_
  exact lexes_malformed

theorem step_lexes :
    Lexes (do
      let t ← s.prepare
      match t.place.next with
      | none => return (← t.finish, true)
      | some c => return (← t.takeNext c, false)) := by
  refine s.prepare_lexes.bind fun t _ => ?_
  split
  · exact t.finish_lexes.bind fun _ _ => .ok trivial
  · exact (t.takeNext_lexes _).bind fun _ _ => .ok trivial

/-- The symbols of a text end with a lexical fault if with any. -/
theorem stream_lexical (fuel : Nat) {f : Fault} (h : (s.stream fuel).fault = some f) :
    f.Lexical := by
  induction fuel generalizing s with
  | zero =>
      cases h
      exact .malformed
  | succ fuel ih =>
      rw [stream] at h
      split at h
      case h_1 failed =>
        cases h
        exact s.step_lexes.of_error failed
      case h_2 => cases h
      case h_3 t _ => exact ih t h

end Layout

theorem Stream.ofText_lexical {t : Text} {f : Fault} (h : (Stream.ofText t).fault = some f) :
    f.Lexical := (Layout.start t).stream_lexical _ h

end MaximalMunch.Yaml
