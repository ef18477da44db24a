/-
This file reads the URLs for NEIS back as query strings. Three functions build
one: the name of a school is encoded and then copied into an array of 256 bytes,
and codes and dates are inserted as they came. What is read back is what was
meant exactly when no operand has a character that means something in a query,
and nothing was cut.
-/

import Mathlib.Algebra.GroupWithZero.Nat
import SchoolMeals.Library.QueryText
import SchoolMeals.Neis

namespace SchoolMeals

open CText Interaction

/-! ### The parameters that are meant -/

/-- The parameters of every URL. -/
def commonParameters : List (Bytes × Bytes) :=
  [(utf8 "KEY", neisApiKey), (utf8 "Type", utf8 "json")]

def mealParameters (eduOffice schoolCode date : Bytes) : List (Bytes × Bytes) :=
  commonParameters ++
    [(utf8 "ATPT_OFCDC_SC_CODE", eduOffice), (utf8 "SD_SCHUL_CODE", schoolCode),
      (utf8 "MLSV_YMD", date)]

def mealsPeriodParameters (eduOffice schoolCode startDate endDate : Bytes) : List (Bytes × Bytes) :=
  commonParameters ++
    [(utf8 "ATPT_OFCDC_SC_CODE", eduOffice), (utf8 "SD_SCHUL_CODE", schoolCode),
      (utf8 "MLSV_FROM_YMD", startDate), (utf8 "MLSV_TO_YMD", endDate)]

def schoolParameters (schoolName : Bytes) : List (Bytes × Bytes) :=
  commonParameters ++ [(utf8 "SCHUL_NM", schoolName)]

/-- Each parameter once, with its value. -/
def exactly (parameters : List (Bytes × Bytes)) : List (Bytes × Option Bytes) :=
  parameters.map fun parameter => (parameter.1, some parameter.2)

/-- Every URL that a lookup requests is read back as these parameters. -/
def RequestsExactly {Result : Type} (side : NeisSide) (lookup : Neis Result)
    (parameters : List (Bytes × Bytes)) : Prop :=
  ∀ url ∈ side.urls lookup, readQuery url = exactly parameters

/-! ### URLs as lists of parameters -/

theorem mealUrl_eq (eduOffice schoolCode date : Bytes) :
    mealUrl eduOffice schoolCode date =
      (neisApiUrl ++
        63 :: writeParameters (mealParameters eduOffice schoolCode date)).take 1023 := by
  have key : utf8 "?KEY=" = 63 :: (utf8 "KEY" ++ utf8 "=") := by decide
  have type : utf8 "&Type=json&ATPT_OFCDC_SC_CODE=" = utf8 "&" ++ (utf8 "Type" ++ utf8 "=" ++
    utf8 "json") ++ utf8 "&" ++ (utf8 "ATPT_OFCDC_SC_CODE" ++ utf8 "=") := by decide
  have school : utf8 "&SD_SCHUL_CODE=" = utf8 "&" ++ (utf8 "SD_SCHUL_CODE" ++ utf8 "=") := by decide
  have day : utf8 "&MLSV_YMD=" = utf8 "&" ++ (utf8 "MLSV_YMD" ++ utf8 "=") := by decide
  rw [mealUrl, snprintf, key, type, school, day]
  simp only [mealParameters, commonParameters, writeParameters, writeParameter, List.cons_append,
    List.nil_append, List.append_assoc]

theorem mealsPeriodUrl_eq (eduOffice schoolCode startDate endDate : Bytes) :
    mealsPeriodUrl eduOffice schoolCode startDate endDate =
      (neisApiUrl ++ 63 :: writeParameters
        (mealsPeriodParameters eduOffice schoolCode startDate endDate)).take 1023 := by
  have key : utf8 "?KEY=" = 63 :: (utf8 "KEY" ++ utf8 "=") := by decide
  have type : utf8 "&Type=json&ATPT_OFCDC_SC_CODE=" = utf8 "&" ++ (utf8 "Type" ++ utf8 "=" ++
    utf8 "json") ++ utf8 "&" ++ (utf8 "ATPT_OFCDC_SC_CODE" ++ utf8 "=") := by decide
  have school : utf8 "&SD_SCHUL_CODE=" = utf8 "&" ++ (utf8 "SD_SCHUL_CODE" ++ utf8 "=") := by decide
  have first : utf8 "&MLSV_FROM_YMD=" = utf8 "&" ++ (utf8 "MLSV_FROM_YMD" ++ utf8 "=") := by decide
  have last : utf8 "&MLSV_TO_YMD=" = utf8 "&" ++ (utf8 "MLSV_TO_YMD" ++ utf8 "=") := by decide
  rw [mealsPeriodUrl, snprintf, key, type, school, first, last]
  simp only [mealsPeriodParameters, commonParameters, writeParameters, writeParameter,
    List.cons_append, List.nil_append, List.append_assoc]

/-- Where a lookup of a school goes. -/
def schoolInfoBase : Bytes := utf8 "https://open.neis.go.kr/hub/schoolInfo"

theorem schoolInfoUrl_eq (encodedSchool : Bytes) :
    schoolInfoUrl encodedSchool =
      (schoolInfoBase ++ 63 :: writeParameters (schoolParameters encodedSchool)).take 1023 := by
  have key : utf8 "https://open.neis.go.kr/hub/schoolInfo?KEY=" =
      schoolInfoBase ++ 63 :: (utf8 "KEY" ++ utf8 "=") := by decide
  have type : utf8 "&Type=json&SCHUL_NM=" = utf8 "&" ++ (utf8 "Type" ++ utf8 "=" ++
    utf8 "json") ++ utf8 "&" ++ (utf8 "SCHUL_NM" ++ utf8 "=") := by decide
  rw [schoolInfoUrl, snprintf, key, type]
  simp only [schoolParameters, commonParameters, writeParameters, writeParameter,
    List.cons_append, List.nil_append, List.append_assoc]

/-! ### Values that are inserted as they came -/

/-- A URL is read back exactly when it is not cut and all its values are literal. -/
theorem readQuery_take_iff {base : Bytes} (hash : 35 ∉ base) (question : 63 ∉ base)
    (short : base.length < 1023) {parameters : List (Bytes × Bytes)} (nonempty : parameters ≠ [])
    (names : ∀ parameter ∈ parameters, IsName parameter.1) :
    readQuery ((base ++ 63 :: writeParameters parameters).take 1023) = exactly parameters ↔
      (∀ parameter ∈ parameters, IsLiteral parameter.2) ∧
        base.length + 1 + (writeParameters parameters).length ≤ 1023 := by
  obtain ⟨room, isRoom⟩ : ∃ room, 1023 - base.length = room + 1 :=
    ⟨1023 - base.length - 1, by omega⟩
  rw [List.take_append, List.take_of_length_le (Nat.le_of_lt short), isRoom, List.take_succ_cons,
    readQuery_behind hash question, exactly, parametersOf_take_iff nonempty names]
  refine and_congr_right fun _ => ?_
  omega

theorem isLiteral_iff (value : Bytes) :
    IsLiteral value ↔ 38 ∉ value ∧ 35 ∉ value ∧ percentDecode value = value := by
  rw [percentDecode_eq_self_iff]
  exact ⟨fun literal => ⟨literal.ampersand, literal.hash, literal.escapeFree⟩,
    fun parts => ⟨parts.1, parts.2.1, parts.2.2⟩⟩

theorem isLiteral_key : IsLiteral neisApiKey := by
  rw [isLiteral_iff]
  decide

theorem isLiteral_json : IsLiteral (utf8 "json") := by
  rw [isLiteral_iff]
  decide

/-- The bytes of a written list in front of its last values. -/
theorem length_writeParameters {parameters : List (Bytes × Bytes)} (nonempty : parameters ≠ []) :
    (writeParameters parameters).length + 1 =
      (parameters.map fun parameter => parameter.1.length + parameter.2.length + 2).sum := by
  have equals : (utf8 "=").length = 1 := by decide
  induction parameters with
  | nil => exact absurd rfl nonempty
  | cons parameter parameters inductionHypothesis =>
    have single : (writeParameter parameter).length =
        parameter.1.length + parameter.2.length + 1 := by
      rw [writeParameter, List.length_append, List.length_append, equals]
      omega
    cases parameters with
    | nil => simp [writeParameters, single]
    | cons second parameters =>
      have later := inductionHypothesis (List.cons_ne_nil _ _)
      rw [writeParameters_cons _ (List.cons_ne_nil _ _), List.map_cons, List.sum_cons, ← later,
        List.length_append, List.length_cons, single]
      omega

/-- A URL with some operands is read back when these are literal and it is not cut. -/
theorem readQuery_operands_iff {base : Bytes} (hash : 35 ∉ base) (question : 63 ∉ base)
    (short : base.length < 1023) {operands : List (Bytes × Bytes)}
    (names : ∀ operand ∈ operands, IsName operand.1) :
    readQuery ((base ++ 63 :: writeParameters (commonParameters ++ operands)).take 1023) =
        exactly (commonParameters ++ operands) ↔
      (∀ operand ∈ operands, IsLiteral operand.2) ∧ base.length + 47 +
        (operands.map fun operand => operand.1.length + operand.2.length + 2).sum ≤ 1023 := by
  have allNames : ∀ parameter ∈ commonParameters ++ operands, IsName parameter.1 := by
    rw [List.forall_mem_append]
    exact ⟨by decide, names⟩
  have nonempty : commonParameters ++ operands ≠ [] := List.cons_ne_nil _ _
  have total := length_writeParameters nonempty
  have common : (commonParameters.map fun parameter =>
      parameter.1.length + parameter.2.length + 2).sum = 47 := by decide
  have literals : ∀ parameter ∈ commonParameters, IsLiteral parameter.2 := by
    simp only [commonParameters, List.forall_mem_cons, isLiteral_key, isLiteral_json, true_and]
    exact nofun
  rw [List.map_append, List.sum_append, common] at total
  rw [readQuery_take_iff hash question short nonempty allNames, List.forall_mem_append]
  refine and_congr (and_iff_right literals) ?_
  omega

/-- The URL for a day is read back when its operands are literal and it is not cut. -/
theorem readQuery_mealUrl_iff (eduOffice schoolCode date : Bytes) :
    readQuery (mealUrl eduOffice schoolCode date) =
        exactly (mealParameters eduOffice schoolCode date) ↔
      IsLiteral eduOffice ∧ IsLiteral schoolCode ∧ IsLiteral date ∧
        eduOffice.length + schoolCode.length + date.length ≤ 884 := by
  have names : ∀ operand ∈ [(utf8 "ATPT_OFCDC_SC_CODE", eduOffice),
      (utf8 "SD_SCHUL_CODE", schoolCode), (utf8 "MLSV_YMD", date)], IsName operand.1 := by
    simp only [List.forall_mem_cons]
    exact ⟨by decide, by decide, by decide, nofun⟩
  rw [mealUrl_eq, mealParameters,
    readQuery_operands_iff (by decide) (by decide) (by decide) names]
  simp only [List.forall_mem_cons, List.map_cons, List.map_nil, List.sum_cons, List.sum_nil,
    show neisApiUrl.length = 47 by decide, show (utf8 "ATPT_OFCDC_SC_CODE").length = 18 by decide,
    show (utf8 "SD_SCHUL_CODE").length = 13 by decide, show (utf8 "MLSV_YMD").length = 8 by decide,
    and_assoc]
  refine and_congr_right fun _ => and_congr_right fun _ => and_congr_right fun _ => ?_
  refine (and_iff_right nofun).trans ?_
  omega

/-- And so is that for a period. -/
theorem readQuery_mealsPeriodUrl_iff (eduOffice schoolCode startDate endDate : Bytes) :
    readQuery (mealsPeriodUrl eduOffice schoolCode startDate endDate) =
        exactly (mealsPeriodParameters eduOffice schoolCode startDate endDate) ↔
      IsLiteral eduOffice ∧ IsLiteral schoolCode ∧ IsLiteral startDate ∧ IsLiteral endDate ∧
        eduOffice.length + schoolCode.length + startDate.length + endDate.length ≤ 866 := by
  have names : ∀ operand ∈ [(utf8 "ATPT_OFCDC_SC_CODE", eduOffice),
      (utf8 "SD_SCHUL_CODE", schoolCode), (utf8 "MLSV_FROM_YMD", startDate),
      (utf8 "MLSV_TO_YMD", endDate)], IsName operand.1 := by
    simp only [List.forall_mem_cons]
    exact ⟨by decide, by decide, by decide, by decide, nofun⟩
  rw [mealsPeriodUrl_eq, mealsPeriodParameters,
    readQuery_operands_iff (by decide) (by decide) (by decide) names]
  simp only [List.forall_mem_cons, List.map_cons, List.map_nil, List.sum_cons, List.sum_nil,
    show neisApiUrl.length = 47 by decide, show (utf8 "ATPT_OFCDC_SC_CODE").length = 18 by decide,
    show (utf8 "SD_SCHUL_CODE").length = 13 by decide,
    show (utf8 "MLSV_FROM_YMD").length = 13 by decide,
    show (utf8 "MLSV_TO_YMD").length = 11 by decide, and_assoc]
  refine and_congr_right fun _ => and_congr_right fun _ => and_congr_right fun _ =>
    and_congr_right fun _ => ?_
  refine (and_iff_right nofun).trans ?_
  omega

/-! ### The name that is encoded -/

/-- Without ampersands and hashes a URL that fits is read back decoded. -/
theorem readQuery_written {base : Bytes} (hash : 35 ∉ base) (question : 63 ∉ base)
    {parameters : List (Bytes × Bytes)} (nonempty : parameters ≠ [])
    (names : ∀ parameter ∈ parameters, IsName parameter.1)
    (values : ∀ parameter ∈ parameters, 38 ∉ parameter.2 ∧ 35 ∉ parameter.2)
    (fits : base.length + 1 + (writeParameters parameters).length ≤ 1023) :
    readQuery ((base ++ 63 :: writeParameters parameters).take 1023) =
      parameters.map fun parameter => (parameter.1, some (percentDecode parameter.2)) := by
  obtain ⟨noHash, read⟩ := parametersOf_written nonempty names values
  have kept : (writeParameters parameters).takeWhile (· ≠ 35) = writeParameters parameters :=
    List.takeWhile_eq_self_iff.mpr fun byte member =>
      decide_eq_true (ne_of_mem_of_not_mem member noHash)
  have whole : (base ++ 63 :: writeParameters parameters).length ≤ 1023 := by
    rw [List.length_append, List.length_cons]
    omega
  rw [List.take_of_length_le whole, readQuery_behind hash question, kept, read]

/-- An encoded name, or the front of one, does not interfere. -/
theorem encoded_plain {schoolName front : Bytes} (begins : front <+: percentEncode schoolName) :
    38 ∉ front ∧ 35 ∉ front := by
  constructor <;>
  · intro member
    rcases mem_percentEncode (begins.subset member) with unreserved | percent
    · exact absurd unreserved (by decide)
    · exact absurd percent (by decide)

theorem names_schoolParameters (encodedSchool : Bytes) :
    ∀ parameter ∈ schoolParameters encodedSchool, IsName parameter.1 := by
  simp only [schoolParameters, commonParameters, List.cons_append, List.nil_append,
    List.forall_mem_cons]
  exact ⟨by decide, by decide, by decide, nofun⟩

theorem values_schoolParameters {encodedSchool : Bytes}
    (plain : 38 ∉ encodedSchool ∧ 35 ∉ encodedSchool) :
    ∀ parameter ∈ schoolParameters encodedSchool, 38 ∉ parameter.2 ∧ 35 ∉ parameter.2 := by
  simp only [schoolParameters, commonParameters, List.cons_append, List.nil_append,
    List.forall_mem_cons]
  exact ⟨by decide, by decide, plain, nofun⟩

theorem length_schoolParameters (encodedSchool : Bytes) :
    (writeParameters (schoolParameters encodedSchool)).length = 56 + encodedSchool.length := by
  have total := length_writeParameters (show schoolParameters encodedSchool ≠ [] from
    List.cons_ne_nil _ _)
  have common : (commonParameters.map fun parameter =>
      parameter.1.length + parameter.2.length + 2).sum = 47 := by decide
  have name : (utf8 "SCHUL_NM").length = 8 := by decide
  rw [schoolParameters, List.map_append, List.sum_append, common] at total
  simp only [List.map_cons, List.map_nil, List.sum_cons, List.sum_nil, name] at total
  rw [schoolParameters]
  omega

/-- What follows an ampersand is a parameter of its own. -/
theorem writeParameters_smuggled (front : Bytes) :
    writeParameters (schoolParameters (front ++ utf8 "&a=b")) =
      writeParameters (schoolParameters front ++ [(utf8 "a", utf8 "b")]) := by
  have smuggled : utf8 "&a=b" = utf8 "&" ++ (utf8 "a" ++ utf8 "=" ++ utf8 "b") := by decide
  rw [smuggled]
  simp only [schoolParameters, commonParameters, writeParameters, writeParameter,
    List.cons_append, List.nil_append, List.append_assoc]

/-- The URL for a school is read back, whatever lies behind the encoded name, exactly when the
encoded name leaves room for its terminator. -/
theorem readQuery_schoolInfoUrl_iff (schoolName : Bytes) :
    (∀ behind, readQuery (schoolInfoUrl (strncpy (percentEncode schoolName) 255 behind)) =
        exactly (schoolParameters schoolName)) ↔ (percentEncode schoolName).length < 255 := by
  have base : schoolInfoBase.length = 38 := by decide
  constructor
  · intro read
    by_contra long
    -- the memory behind the array can hold anything, such as one more parameter
    have smuggled := read (utf8 "&a=b")
    have plain := encoded_plain (List.take_prefix 255 (percentEncode schoolName))
    have cut : (((percentEncode schoolName).take 255)).length ≤ 255 := List.length_take_le _ _
    have names : ∀ parameter ∈ schoolParameters ((percentEncode schoolName).take 255) ++
        [(utf8 "a", utf8 "b")], IsName parameter.1 := by
      rw [List.forall_mem_append]
      exact ⟨names_schoolParameters _, by decide⟩
    have values : ∀ parameter ∈ schoolParameters ((percentEncode schoolName).take 255) ++
        [(utf8 "a", utf8 "b")], 38 ∉ parameter.2 ∧ 35 ∉ parameter.2 := by
      rw [List.forall_mem_append]
      exact ⟨values_schoolParameters plain, by decide⟩
    have fits : schoolInfoBase.length + 1 + (writeParameters (schoolParameters
        ((percentEncode schoolName).take 255) ++ [(utf8 "a", utf8 "b")])).length ≤ 1023 := by
      rw [← writeParameters_smuggled, length_schoolParameters, List.length_append, base,
        show (utf8 "&a=b").length = 4 by decide]
      omega
    rw [strncpy, if_neg long, schoolInfoUrl_eq, writeParameters_smuggled,
      readQuery_written (by decide) (by decide) (List.append_ne_nil_of_right_ne_nil _ (by simp))
        names values fits] at smuggled
    have lengths := congrArg List.length smuggled
    simp [exactly, schoolParameters, commonParameters] at lengths
  · intro short behind
    have plain := encoded_plain (List.prefix_refl (percentEncode schoolName))
    have fits : schoolInfoBase.length + 1 + (writeParameters (schoolParameters
        (percentEncode schoolName))).length ≤ 1023 := by
      rw [length_schoolParameters, base]
      omega
    have nonempty : schoolParameters (percentEncode schoolName) ≠ [] := List.cons_ne_nil _ _
    rw [strncpy_of_short _ _ _ short, schoolInfoUrl_eq, readQuery_written (by decide) (by decide)
      nonempty (names_schoolParameters _) (values_schoolParameters plain) fits]
    have key := ((isLiteral_iff _).mp isLiteral_key).2.2
    have json := ((isLiteral_iff _).mp isLiteral_json).2.2
    simp [exactly, schoolParameters, commonParameters, key, json, percentDecode_percentEncode]

/-! ### What is requested -/

/-- The same surroundings with other bytes behind the array for the encoded name. -/
def NeisSide.behindName (side : NeisSide) (behind : Bytes) : NeisSide :=
  { side with memory := { side.memory with encodedSchool := behind } }

/-- Each of the three functions requests what is meant exactly when it requests nothing, or its
operands are literal and fit, or its encoded name does. -/
theorem requestsExactly_iff {side : NeisSide}
    (escapes : ∀ text, side.libraries.easyEscape text = percentEncode text)
    (eduOffice schoolCode date startDate endDate schoolName : Bytes) :
    (RequestsExactly side (side.getMealFromNeis eduOffice schoolCode date)
        (mealParameters eduOffice schoolCode date) ↔
      (side.ready = true → IsLiteral eduOffice ∧ IsLiteral schoolCode ∧ IsLiteral date ∧
        eduOffice.length + schoolCode.length + date.length ≤ 884)) ∧
    (RequestsExactly side (side.getMealsPeriodFromNeis eduOffice schoolCode startDate endDate)
        (mealsPeriodParameters eduOffice schoolCode startDate endDate) ↔
      (daysBetween side.clock startDate endDate ≤ 7 ∧ side.ready = true → IsLiteral eduOffice ∧
        IsLiteral schoolCode ∧ IsLiteral startDate ∧ IsLiteral endDate ∧
        eduOffice.length + schoolCode.length + startDate.length + endDate.length ≤ 866)) ∧
    ((∀ behind, RequestsExactly (side.behindName behind)
        ((side.behindName behind).getSchoolCodes schoolName) (schoolParameters schoolName)) ↔
      (side.ready = true → (percentEncode schoolName).length < 255)) := by
  refine ⟨?_, ?_, ?_⟩
  · rw [RequestsExactly, side.urls_getMealFromNeis, ← readQuery_mealUrl_iff]
    split <;> simp [*]
  · rw [RequestsExactly, side.urls_getMealsPeriodFromNeis, ← readQuery_mealsPeriodUrl_iff]
    split <;> simp [*]
  · have urls (behind : Bytes) :
        (side.behindName behind).urls ((side.behindName behind).getSchoolCodes schoolName) =
          if side.ready then
            [schoolInfoUrl (strncpy (percentEncode schoolName) 255 behind)] else [] := by
      rw [NeisSide.urls_getSchoolCodes, ← escapes]
      rfl
    rw [← readQuery_schoolInfoUrl_iff]
    simp only [RequestsExactly, urls]
    split <;> simp [*]

/-- A NEIS that encodes names as libcurl does. -/
def escapingNeis : NeisSide :=
  { NeisSide.calm .null with libraries := ⟨percentEncode, fun _ => .null, fun _ => []⟩ }

theorem requestsExactly_monday :
    (RequestsExactly escapingNeis
        (escapingNeis.getMealFromNeis (utf8 "B10") (utf8 "7010569") (utf8 "20240603"))
        (mealParameters (utf8 "B10") (utf8 "7010569") (utf8 "20240603")) ↔
      (escapingNeis.ready = true → IsLiteral (utf8 "B10") ∧ IsLiteral (utf8 "7010569") ∧
        IsLiteral (utf8 "20240603") ∧
        (utf8 "B10").length + (utf8 "7010569").length + (utf8 "20240603").length ≤ 884)) ∧
    (RequestsExactly escapingNeis (escapingNeis.getMealsPeriodFromNeis (utf8 "B10")
        (utf8 "7010569") (utf8 "20240603") (utf8 "20240607"))
        (mealsPeriodParameters (utf8 "B10") (utf8 "7010569") (utf8 "20240603") (utf8 "20240607")) ↔
      (daysBetween escapingNeis.clock (utf8 "20240603") (utf8 "20240607") ≤ 7 ∧
          escapingNeis.ready = true →
        IsLiteral (utf8 "B10") ∧ IsLiteral (utf8 "7010569") ∧ IsLiteral (utf8 "20240603") ∧
        IsLiteral (utf8 "20240607") ∧ (utf8 "B10").length + (utf8 "7010569").length +
          (utf8 "20240603").length + (utf8 "20240607").length ≤ 866)) ∧
    ((∀ behind, RequestsExactly (escapingNeis.behindName behind)
        ((escapingNeis.behindName behind).getSchoolCodes (utf8 "서울초등학교"))
        (schoolParameters (utf8 "서울초등학교"))) ↔
      (escapingNeis.ready = true → (percentEncode (utf8 "서울초등학교")).length < 255)) :=
  requestsExactly_iff (fun _ => rfl) (utf8 "B10") (utf8 "7010569") (utf8 "20240603")
    (utf8 "20240603") (utf8 "20240607") (utf8 "서울초등학교")

/-- A date that brings one more parameter. -/
theorem not_requestsExactly_added :
    ¬ RequestsExactly escapingNeis (escapingNeis.getMealFromNeis (utf8 "B10") (utf8 "7010569")
        (utf8 "20240603&Type=xml"))
      (mealParameters (utf8 "B10") (utf8 "7010569") (utf8 "20240603&Type=xml")) := by
  intro reads
  have asked : mealUrl (utf8 "B10") (utf8 "7010569") (utf8 "20240603&Type=xml") ∈
      escapingNeis.urls (escapingNeis.getMealFromNeis (utf8 "B10") (utf8 "7010569")
        (utf8 "20240603&Type=xml")) := by
    rw [NeisSide.urls_getMealFromNeis]
    exact List.mem_singleton.mpr rfl
  have literal := ((readQuery_mealUrl_iff _ _ _).mp (reads _ asked)).2.2.1
  exact literal.ampersand (by decide)

end SchoolMeals
