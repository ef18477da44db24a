/-
This file is about the one statement the server formats into a text. What the
text means is decided by SQL's rule for string literals, so a registration does
what it should exactly when no field of its record contains a quote; the cut to
19 bytes leaves room for a name that closes its literal, supplies the other
values itself and comments out the rest.
-/

import SchoolMeals.Widths

namespace SchoolMeals

open CText Interaction Relational

/-- The text of `add_user` is one `INSERT` statement with the values of the record. -/
def ReadsBack (user : User) : Prop :=
  SqlText.readInsert insertUserHead 4 (addUserText user) =
    some [user.id, user.pw, user.role, user.eduOffice, user.schoolName]

/-- One user was created, under this identifier and with the role `GENERAL`. -/
def Creates (before after : Store) (id : Bytes) : Prop :=
  ∃ row : Row, row .id = some id ∧ row .role = some roleGeneral ∧
    after.tables = insertRow before.tables .users row

/-- Whatever the server meets, a registration with these operands whose school has these codes
creates one user under this identifier, or leaves the store as it was. -/
def OnlyCreates (id pw : Operand) (codes : SchoolCodes) (key : Bytes) : Prop :=
  ∀ (eduOffice schoolName : Operand) (locals : Locals) (around : Surroundings) (store : Store),
    around.schoolCodes schoolName.text = some codes →
      (serve (registration id pw eduOffice schoolName locals around) store).store = store ∨
        Creates store (serve (registration id pw eduOffice schoolName locals around) store).store
          key

/-- A record without quotes is created under its own identifier. -/
theorem onlyCreates_of_quoteFree {id pw : Operand} {codes : SchoolCodes}
    (quoteFree : (generalUser id.text pw.text codes).QuoteFree) :
    OnlyCreates id pw codes (id.text.take 19) := by
  intro eduOffice schoolName locals around store resolved
  have settles := settles_registration id pw eduOffice schoolName locals around store
    fun other found => Option.some.inj (resolved.symm.trans found) ▸ quoteFree
  rw [resolved] at settles
  generalize serve (registration id pw eduOffice schoolName locals around) store = served
    at settles ⊢
  cases settles with
  | refused _ same _ => exact Or.inl same
  | made change demand accepted after _ =>
    obtain rfl : Change.register id.text pw.text codes = change := Option.some.inj demand
    have tables : served.store.tables = _ :=
      (congrArg Store.tables after).trans (withUser_of_fresh accepted.possible)
    refine Or.inr ⟨rowOf (generalUser id.text pw.text codes), ?_, ?_, tables⟩
    · rw [generalUser_eq]
      rfl
    · rw [generalUser_eq]
      rfl

/-- On the empty store a record without quotes is created. -/
theorem serve_registration_initDb (id pw : Operand) (codes : SchoolCodes)
    (quoteFree : (generalUser id.text pw.text codes).QuoteFree) :
    ∃ eduOffice schoolName, (serve (registration id pw eduOffice schoolName .zeroed
      (.calm codes)) initDb).store = withUser initDb (generalUser id.text pw.text codes) := by
  let field : Operand := ⟨utf8 "Seoul", by decide, by decide⟩
  refine ⟨field, field, ?_⟩
  have settles := settles_registration id pw field field .zeroed (.calm codes) initDb
    fun other found => Option.some.inj found ▸ quoteFree
  generalize serve (registration id pw field field .zeroed (.calm codes)) initDb = served
    at settles ⊢
  cases settles with
  | refused unaccepted same error =>
    exact absurd ⟨rfl, rfl, rfl⟩ (unaccepted (.register id.text pw.text codes) rfl)
  | made change demand accepted after succeeds =>
    obtain rfl : Change.register id.text pw.text codes = change := Option.some.inj demand
    exact after

/-- A registration's text reads as the one statement it should be, and the registration can only
create the one user it should create, if and only if none of the four cut fields contains a
quote; the user then has the requested identifier itself if and only if that fits its array. -/
theorem registration_safe_iff (id pw : Operand) (codes : SchoolCodes) :
    (ReadsBack (generalUser id.text pw.text codes) ∧
        OnlyCreates id pw codes (id.text.take 19) ↔
      SqlText.quote ∉ id.text.take 19 ∧ SqlText.quote ∉ pw.text.take 19 ∧
        SqlText.quote ∉ codes.eduCode.take 49 ∧ SqlText.quote ∉ codes.schoolCode.take 49) ∧
    (ReadsBack (generalUser id.text pw.text codes) ∧ OnlyCreates id pw codes id.text ↔
      (SqlText.quote ∉ id.text.take 19 ∧ SqlText.quote ∉ pw.text.take 19 ∧
        SqlText.quote ∉ codes.eduCode.take 49 ∧ SqlText.quote ∉ codes.schoolCode.take 49) ∧
        id.text.length ≤ 19) := by
  have reads : ReadsBack (generalUser id.text pw.text codes) ↔
      (generalUser id.text pw.text codes).QuoteFree :=
    readInsert_addUserText_iff (fits_generalUser id.text pw.text codes)
  rw [reads, ← quoteFree_generalUser_iff]
  refine ⟨and_iff_left_of_imp onlyCreates_of_quoteFree, and_congr_right fun quoteFree => ?_⟩
  constructor
  · intro only
    obtain ⟨eduOffice, schoolName, after⟩ := serve_registration_initDb id pw codes quoteFree
    have users : ((withUser initDb (generalUser id.text pw.text codes)).tables .users) =
        [rowOf (generalUser id.text pw.text codes)] := by
      rw [withUser_of_fresh rfl]
      rfl
    rcases only eduOffice schoolName .zeroed (.calm codes) initDb rfl with same | created
    · rw [after] at same
      rw [same] at users
      cases users
    · obtain ⟨row, key, _, inserted⟩ := created
      rw [after] at inserted
      rw [inserted] at users
      obtain rfl : row = rowOf (generalUser id.text pw.text codes) :=
        List.singleton_inj.mp users
      have named : rowOf (generalUser id.text pw.text codes) .id = some (id.text.take 19) := by
        rw [generalUser_eq]
        rfl
      rw [named, Option.some.injEq] at key
      exact (List.take_eq_self_iff id.text).mp key
  · intro fits
    have only := onlyCreates_of_quoteFree quoteFree
    rwa [(List.take_eq_self_iff id.text).mpr fits] at only

/-- Nineteen bytes that close the literal of the identifier, give all other values and comment
out the rest of the statement. -/
def hostileId : Operand := ⟨utf8 "a','b','c','','')--", by decide, by decide⟩

/-- With them, a registration creates a user with a role of its own choice. -/
theorem hostileId_unsafe :
    ¬ ReadsBack (generalUser hostileId.text (utf8 "1234") ⟨utf8 "B10", utf8 "7010569"⟩) ∧
      ¬ OnlyCreates hostileId sampleOperands.2.1 ⟨utf8 "B10", utf8 "7010569"⟩
        (hostileId.text.take 19) := by
  constructor
  · unfold ReadsBack
    decide
  · intro only
    rcases only sampleOperands.2.2.1 sampleOperands.2.2.2 .zeroed sampleAround initDb rfl with
      same | ⟨row, _, role, inserted⟩
    · have users := congrArg (fun store : Store => (store.tables .users).length) same
      exact absurd users (by decide)
    · have roles := congrArg (fun tables : Tables Table Column Bytes =>
        (tables .users).map fun row => row .role) inserted
      have own : [some (utf8 "c")] = [some roleGeneral] := by
        rw [← role]
        exact roles
      exact absurd own (by decide)

end SchoolMeals
