import LispData.Proofs.Text.Quoted
import LispData.Proofs.Text.Word
/-!
# Refusals — what is told of a refused name

A name that is no word is refused, in an error and in one trace record. Behind
words of their own the two tell the same: the name between quotes, a colon and
the reason (`refusalText`). A reader that undoes the quotes cuts this text apart
again (`readRefusal_refusalText`), whatever the name holds, be it quotes and
colons that look like the end of it. So a refusal tells the name and the reason,
in either place (`Symbol.parse_reported`).
-/

namespace LispData

/-! ## The text of a refusal -/

/-- What an error and a record tell of a refused name, behind their first words. -/
def refusalText (name reason : String) : String :=
  quoted name ++ ": " ++ reason

/-- Reads the text of a refusal: a name between quotes, then, behind a colon and a
space, the reason. -/
def readRefusal (text : String) : Option (String × String) :=
  match text.toList with
  | '"' :: behind =>
    match Quoted.scan .between behind with
    | some (name, ':' :: ' ' :: reason) => some (String.ofList name, String.ofList reason)
    | _ => none
  | _ => none

/-- **The name and the reason are read back**, whatever the name holds. -/
theorem readRefusal_refusalText (name reason : String) :
    readRefusal (refusalText name reason) = some (name, reason) := by
  have hchars : (refusalText name reason).toList =
      '"' :: (name.toList.flatMap Quoted.code ++ '"' :: ':' :: ' ' :: reason.toList) := by
    simp [refusalText, quoted, toList_delimited]
  rw [readRefusal, hchars]
  simp only [Quoted.reads.read_codes, String.ofList_toList]

/-- **A refusal is told by its text.** -/
theorem refusalText_eq_iff {m n r s : String} :
    refusalText m r = refusalText n s ↔ m = n ∧ r = s := by
  constructor
  · intro h
    have hread := congrArg readRefusal h
    rw [readRefusal_refusalText, readRefusal_refusalText, Option.some.injEq, Prod.mk.injEq] at hread
    exact hread
  · rintro ⟨rfl, rfl⟩
    rfl

/-! ## Where it is told -/

/-- The error tells it behind its first words. -/
theorem message_invalidSymbolName (name reason : String) :
    (Error.invalidSymbolName name reason).message =
      "invalid symbol name " ++ refusalText name reason := by
  rw [refusalText, ← String.append_assoc, ← String.append_assoc]
  rfl

namespace Symbol

/-- A word gives its symbol and leaves no record. -/
theorem parse_of_isWord {name : String} (h : IsWord name.toList) :
    parse name = ⟨.ok ⟨name⟩, []⟩ := by
  rw [parse, nameFault?_eq_none_iff.2 h]

/-- A name with a fault is refused for it, and the record tells what the error
tells. -/
theorem parse_of_fault {name : String} {fault : NameFault} (h : nameFault? name = some fault) :
    parse name = ⟨.error (.invalidSymbolName name fault.reason),
      [⟨.naming, "rejecting symbol name " ++ refusalText name fault.reason⟩]⟩ := by
  rw [parse, h, refusalText, ← String.append_assoc, ← String.append_assoc]

/-- A name that is no word has a fault. -/
theorem exists_nameFault {name : String} (h : ¬ IsWord name.toList) :
    ∃ fault, nameFault? name = some fault :=
  Option.ne_none_iff_exists'.1 fun hnone => h (nameFault?_eq_none_iff.1 hnone)

/-- The record of a refusal tells the name and the reason of the error. -/
theorem log_of_refused {name reason : String}
    (h : (parse name).result = .error (.invalidSymbolName name reason)) :
    (parse name).log = [⟨.naming, "rejecting symbol name " ++ refusalText name reason⟩] := by
  by_cases hword : IsWord name.toList
  · rw [parse_of_isWord hword] at h
    cases h
  · obtain ⟨fault, hfault⟩ := exists_nameFault hword
    rw [parse_of_fault hfault] at h ⊢
    cases h
    rfl

/-- **Every name is accepted or refused under its own name**, and a refusal is
reported faithfully. A word gives the symbol of that name and leaves no record.
Any other name is refused for its first fault and leaves one record, which tells
what the error tells, each behind words of its own; from this the name and the
reason are read back. So two refusals share their error text, or their record,
only if they are of one name and for one reason. -/
theorem parse_reported :
    (∀ name : String,
      (IsWord name.toList ∧ (parse name).result = .ok ⟨name⟩ ∧ (parse name).log = []) ∨
      (¬ IsWord name.toList ∧ ∃ (fault : NameFault) (told : String),
        nameFault? name = some fault ∧
        (parse name).result = .error (.invalidSymbolName name fault.reason) ∧
        (parse name).log = [⟨.naming, "rejecting symbol name " ++ told⟩] ∧
        (Error.invalidSymbolName name fault.reason).message = "invalid symbol name " ++ told ∧
        readRefusal told = some (name, fault.reason))) ∧
    ∀ m n r s : String,
      (parse m).result = .error (.invalidSymbolName m r) →
      (parse n).result = .error (.invalidSymbolName n s) →
        ((Error.invalidSymbolName m r).message = (Error.invalidSymbolName n s).message ↔
          m = n ∧ r = s) ∧
        ((parse m).log = (parse n).log ↔ m = n ∧ r = s) := by
  refine ⟨fun name => ?_, fun m n r s hm hn => ⟨?_, ?_⟩⟩
  · by_cases hword : IsWord name.toList
    · rw [parse_of_isWord hword]
      exact Or.inl ⟨hword, rfl, rfl⟩
    · obtain ⟨fault, hfault⟩ := exists_nameFault hword
      have htold := readRefusal_refusalText name fault.reason
      rw [parse_of_fault hfault]
      exact Or.inr ⟨hword, fault, refusalText name fault.reason, hfault, rfl, rfl,
        message_invalidSymbolName name fault.reason, htold⟩
  · -- behind their first words the two messages are the texts of the refusals
    rw [message_invalidSymbolName, message_invalidSymbolName, String.append_right_inj,
      refusalText_eq_iff]
  · rw [log_of_refused hm, log_of_refused hn, List.cons.injEq, TraceRecord.mk.injEq,
      String.append_right_inj, refusalText_eq_iff]
    simp only [true_and, and_true]

/-- A name that looks like the report of another is told apart from it. -/
theorem parse_reported_look_alike :
    (parse ".").result = .error (.invalidSymbolName "." "bare dot") ∧
      (parse ".\": bare dot").result =
        .error (.invalidSymbolName ".\": bare dot" "contains whitespace") ∧
      (Error.invalidSymbolName "." "bare dot").message ≠
        (Error.invalidSymbolName ".\": bare dot" "contains whitespace").message ∧
      (parse ".").log ≠ (parse ".\": bare dot").log := by
  have hdot : (parse ".").result = .error (.invalidSymbolName "." "bare dot") := rfl
  have hlike : (parse ".\": bare dot").result =
      .error (.invalidSymbolName ".\": bare dot" "contains whitespace") := rfl
  have hne : ¬ ("." = ".\": bare dot" ∧ "bare dot" = "contains whitespace") := by decide
  obtain ⟨hmessage, hlog⟩ := parse_reported.2 "." ".\": bare dot" _ _ hdot hlike
  exact ⟨hdot, hlike, fun h => hne (hmessage.1 h), fun h => hne (hlog.1 h)⟩

end Symbol

end LispData
