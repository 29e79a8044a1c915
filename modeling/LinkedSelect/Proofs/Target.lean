import Mathlib.Data.List.TakeWhile
import LinkedSelect.Url.Parse
import LinkedSelect.Proofs.Text.Percent
import LinkedSelect.Proofs.Url.Component

/-!
# Targets tell requests apart

A target is cut at its last equals sign: the value stands behind it and holds none, however many of them the endpoint
has (`Request.cutAtLast?_target`). In front of it stand the endpoint, one separator and the name of the filter. Both
names are of four characters, so the request is read off its target (`Request.ofTarget?`), and
`Request.target_invertible` says that this gives back the whole request.
-/

namespace LinkedSelect

/-- A text is cut at a mark behind which there is no other. -/
theorem Url.cutAtLast?_append {mark : Char} {cs ds : List Char} (h : mark ∉ ds) :
    cutAtLast? mark (cs ++ mark :: ds) = some (cs, ds) := by
  have behind : ((cs ++ mark :: ds).reverse.takeWhile (· != mark)).reverse = ds := by
    have all : ∀ c ∈ ds.reverse, (c != mark) = true := fun c hc =>
      bne_iff_ne.mpr fun e => h (e ▸ List.mem_reverse.mp hc)
    rw [List.reverse_append, List.reverse_cons, List.append_assoc, List.takeWhile_append_of_pos all,
      List.singleton_append, List.takeWhile_cons_of_neg (by simp), List.append_nil, List.reverse_reverse]
  have length : (cs ++ mark :: ds).length - ds.length - 1 = cs.length := by
    rw [List.length_append, List.length_cons]
    omega
  rw [cutAtLast?, if_pos (by simp)]
  dsimp only
  rw [behind, length, List.take_left]

namespace Request

variable {r s : Request}

/-- Reads a request off its target: the last four characters in front of the last equals sign are the name of the
filter, and one separator stands between them and the endpoint. -/
def ofTarget? (target : String) : Option Request :=
  (Url.cutAtLast? '=' target.toList).bind fun (front, value) =>
    (Utf8.decode (Percent.decode (Utf8.encode value))).toOption.map fun value =>
      { endpoint := String.ofList (front.take (front.length - 5))
        param := String.ofList (front.drop (front.length - 4))
        value := String.ofList value }

/-- The value of a target stands behind the last equals sign. -/
theorem cutAtLast?_target (r : Request) : Url.cutAtLast? '=' r.target.toList =
    some (r.endpoint.toList ++ separator r.endpoint :: r.param.toList, (Percent.encode r.value).toList) := by
  have hno : '=' ∉ (Percent.encode r.value).toList := fun h => by
    rcases (Percent.encoded_encode r.value).isCoded '=' h with h | h | h <;> exact absurd h (by decide)
  rw [← Url.cutAtLast?_append hno, target_toList, filter]
  simp

/-- Sites and areas are named by four characters. -/
theorem length_param (h : r.param = "site" ∨ r.param = "area") : r.param.toList.length = 4 := by
  rcases h with h | h <;> rw [h] <;> rfl

/-- A request is read off its target. -/
theorem ofTarget?_target (h : r.param = "site" ∨ r.param = "area") : ofTarget? r.target = some r := by
  have hlen := length_param h
  have five : (r.endpoint.toList ++ separator r.endpoint :: r.param.toList).length - 5 = r.endpoint.toList.length := by
    rw [List.length_append, List.length_cons]
    omega
  have four : (r.endpoint.toList ++ separator r.endpoint :: r.param.toList).length - 4 =
      (r.endpoint.toList ++ [separator r.endpoint]).length := by
    rw [List.length_append, List.length_append, List.length_cons, List.length_singleton]
    omega
  rw [ofTarget?, cutAtLast?_target]
  simp only [Option.bind_some, Percent.decode_encode, Except.toOption, Option.map_some, five, four, List.take_left]
  rw [List.append_cons r.endpoint.toList _ r.param.toList, List.drop_left]
  simp only [String.ofList_toList]

/-- **A target tells its request.** Whatever the endpoints and the values are, requests with one target are the same,
and the request is read off its target. The value stands behind the last equals sign, in unreserved characters and
triples of a percent sign and two digits in upper case; decoded and taken for UTF-8, these are the value again. -/
theorem target_invertible (hr : r.param = "site" ∨ r.param = "area") (hs : s.param = "site" ∨ s.param = "area") :
    (r.target = s.target → r = s) ∧ ofTarget? r.target = some r ∧
      ∃ front value, Url.cutAtLast? '=' r.target.toList = some (front, value) ∧ Percent.Encoded value ∧
        Utf8.decode (Percent.decode (Utf8.encode value)) = .ok r.value.toList := by
  refine ⟨fun h => ?_, ofTarget?_target hr, ?_⟩
  · have read := ofTarget?_target hr
    rw [h, ofTarget?_target hs] at read
    exact (Option.some.inj read).symm
  · exact ⟨_, _, cutAtLast?_target r, Percent.encoded_encode r.value, Percent.decode_encode r.value⟩

/-- An endpoint that has the filter already, with a value that has every sign a target is made of, and the request whose
endpoint swallows the first filter of that one. -/
theorem target_invertible_nested :
    let r : Request := ⟨"/racks?area=%20&area=", "area", "a b&area=%41/é"⟩
    let s : Request := ⟨"/racks?area=%20", "area", "a b&area=%41/é"⟩
    r.target = "/racks?area=%20&area=&area=a%20b%26area%3D%2541%2F%C3%A9" ∧ r.target ≠ s.target ∧
      ofTarget? r.target = some r := by
  intro r s
  have written : r.target = "/racks?area=%20&area=&area=a%20b%26area%3D%2541%2F%C3%A9" := by decide +kernel
  obtain ⟨same, read, _⟩ := target_invertible (r := r) (s := s) (.inr rfl) (.inr rfl)
  exact ⟨written, fun h => absurd (same h) (by decide), read⟩

end Request

end LinkedSelect
