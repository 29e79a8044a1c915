import Mathlib.Data.List.Induction
import Mathlib.Data.Nat.Digits.Defs
import LinkedSelect.Environment
import LinkedSelect.Proofs.Http.Settings

/-!
# Which variables build a server

* A text denotes a number of seconds (`Denotes`) by one or more decimal digits, of which the first may be zeros, perhaps
  behind a plus sign. It is read just where it denotes a number of 64 bits (`seconds?_eq_some`).
* `misconfigured_or_built`: a missing base URL comes first, and a number of seconds that is not read comes second,
  whatever the other variables hold. Otherwise the settings that the variables hold are built, and these report the
  base URL before the cookie, and the cookie before the certificates.
-/

namespace LinkedSelect.Environment

open Http

/-! ## Numbers of seconds -/

/-- Digits of which the first is in the lowest place, as they are written: the highest place in front. -/
def written (ds : List (Fin 10)) : List Char :=
  (ds.map fun d : Fin 10 => Nat.digitChar d).reverse

/-- The text denotes the number by decimal digits, at least one, perhaps behind a plus sign. The highest places may be
zeros. -/
def Denotes (text : String) (n : Nat) : Prop :=
  ∃ ds : List (Fin 10), ds ≠ [] ∧ Nat.ofDigits 10 (ds.map Fin.val) = n ∧
    (text.toList = written ds ∨ text.toList = '+' :: written ds)

theorem isDigit_digitChar (d : Fin 10) : (Nat.digitChar d).isDigit = true := by
  revert d
  decide

theorem value_digitChar (d : Fin 10) : (Nat.digitChar d).toNat - 48 = d := by
  revert d
  decide

/-- Every digit is written for some value. -/
theorem exists_digitChar {c : Char} (h : c.isDigit = true) : ∃ d : Fin 10, Nat.digitChar d = c := by
  obtain ⟨hlow, hhigh⟩ := Char.isDigit_iff_toNat.mp h
  have all : ∀ n ∈ List.range' 48 10, ∃ d : Fin 10, Nat.digitChar d = Char.ofNat n := by decide
  obtain ⟨d, hd⟩ := all c.toNat (List.mem_range'_1.mpr ⟨hlow, Nat.lt_succ_of_le hhigh⟩)
  exact ⟨d, by rw [hd, Char.ofNat_toNat]⟩

theorem isDigit_of_mem_written {ds : List (Fin 10)} {c : Char} (h : c ∈ written ds) : c.isDigit = true := by
  obtain ⟨d, -, rfl⟩ := List.mem_map.mp (List.mem_reverse.mp h)
  exact isDigit_digitChar d

/-- Characters that are digits are written for some values. -/
theorem exists_written {cs : List Char} (h : ∀ c ∈ cs, c.isDigit = true) : ∃ ds, cs = written ds := by
  induction cs using List.reverseRecOn with
  | nil => exact ⟨[], rfl⟩
  | append_singleton cs c ih =>
    obtain ⟨ds, rfl⟩ := ih fun x hx => h x (List.mem_append_left _ hx)
    obtain ⟨d, rfl⟩ := exists_digitChar (h c (List.mem_append_right _ (List.mem_singleton_self c)))
    exact ⟨d :: ds, by simp [written]⟩

/-- The places are summed up. -/
theorem foldl_written (ds : List (Fin 10)) :
    (written ds).foldl (fun n c => n * 10 + (c.toNat - 48)) 0 = Nat.ofDigits 10 (ds.map Fin.val) := by
  induction ds with
  | nil => rfl
  | cons d ds ih =>
    have hw : written (d :: ds) = written ds ++ [Nat.digitChar d] := by simp [written]
    rw [hw, List.foldl_append, ih, List.foldl_cons, List.foldl_nil, value_digitChar, List.map_cons, Nat.ofDigits_cons,
      Nat.mul_comm, Nat.add_comm]

/-- Digits are read as what they denote, and nothing else is read. -/
theorem digits?_eq_some {cs : List Char} {n : Nat} :
    digits? cs = some n ↔ ∃ ds, ds ≠ [] ∧ Nat.ofDigits 10 (ds.map Fin.val) = n ∧ cs = written ds := by
  rw [digits?]
  constructor
  · intro h
    split at h
    · next hcs =>
      obtain ⟨ds, rfl⟩ := exists_written (List.all_eq_true.mp hcs.2)
      refine ⟨ds, fun hds => hcs.1 (by rw [hds]; rfl), ?_, rfl⟩
      rw [← foldl_written]
      exact Option.some.inj h
    · cases h
  · rintro ⟨ds, hne, rfl, rfl⟩
    have hw : written ds ≠ [] := by simpa [written] using hne
    rw [if_pos ⟨hw, List.all_eq_true.mpr fun c => isDigit_of_mem_written⟩, foldl_written]

/-- **A number of seconds is read just where a text denotes one of 64 bits.** -/
theorem seconds?_eq_some {text : String} {n : Nat} : seconds? text = some n ↔ Denotes text n ∧ n < 2 ^ 64 := by
  rw [seconds?, Option.filter_eq_some_iff, decide_eq_true_eq, secondsBound, Denotes]
  refine and_congr_left fun _ => ?_
  split
  · next cs hcs =>
    rw [digits?_eq_some, hcs]
    constructor
    · rintro ⟨ds, hne, hn, rfl⟩
      exact ⟨ds, hne, hn, .inr rfl⟩
    · rintro ⟨ds, hne, hn, hw | hw⟩
      · -- a plus sign is no digit
        have := isDigit_of_mem_written (hw ▸ List.mem_cons_self : '+' ∈ written ds)
        cases this
      · exact ⟨ds, hne, hn, (List.cons.inj hw).2⟩
  · next hplus =>
    rw [digits?_eq_some]
    constructor
    · rintro ⟨ds, hne, hn, hw⟩
      exact ⟨ds, hne, hn, .inl hw⟩
    · rintro ⟨ds, hne, hn, hw | hw⟩
      · exact ⟨ds, hne, hn, hw⟩
      · exact absurd hw (hplus _)

/-! ## What is read and built -/

variable {lookUp : String → Option String}

theorem readTimeout_of_unread {text : String} (ht : lookUp "DCIM_TIMEOUT_SECS" = some text)
    (hno : ¬∃ n, Denotes text n ∧ n < 2 ^ 64) : readTimeout lookUp = .error (.config (.timeout text)) := by
  have unread : seconds? text = none :=
    Option.eq_none_iff_forall_ne_some.mpr fun n hn => hno ⟨n, seconds?_eq_some.mp hn⟩
  rw [readTimeout, timeoutSeconds, ht]
  simp only [unread]

theorem readTimeout_of_rel {seconds : Option Nat}
    (h : Option.Rel (fun text n => Denotes text n ∧ n < 2 ^ 64) (lookUp "DCIM_TIMEOUT_SECS") seconds) :
    readTimeout lookUp = .ok seconds := by
  rw [readTimeout, timeoutSeconds]
  generalize lookUp "DCIM_TIMEOUT_SECS" = text? at h
  cases h with
  | none => rfl
  | some h => simp only [seconds?_eq_some.mpr h]

/-- **Variables are refused for the first thing that is wrong with them, and else they build a server.** Whatever the
others hold, a missing base URL is reported, and with a base URL a number of seconds is, if one is set that does not
denote a number below `2 ^ 64`. If it does, or if none is set, the server is what the settings build that hold the
certificates, the cookie and the seconds, in milliseconds, just of the variables that are set. Then a base URL that is
no URL is reported before the cookie, and a malformed cookie before malformed certificates. -/
theorem misconfigured_or_built (lookUp : String → Option String) :
    (lookUp "DCIM_BASE_URL" = none → server lookUp = .error (.missingVariable "DCIM_BASE_URL")) ∧
      ∀ base, lookUp "DCIM_BASE_URL" = some base →
        (∀ text, lookUp "DCIM_TIMEOUT_SECS" = some text → (¬∃ n, Denotes text n ∧ n < 2 ^ 64) →
          server lookUp = .error (.config (.timeout text)) ∧
            (FetchError.config (.timeout text)).message? =
              some ("Error DCIM_TIMEOUT_SECS is not a number: " ++ text)) ∧
        ∀ seconds, Option.Rel (fun text n => Denotes text n ∧ n < 2 ^ 64) (lookUp "DCIM_TIMEOUT_SECS") seconds →
          server lookUp =
              Settings.build
                { certificates := (lookUp "DCIM_CA").toList
                  cookie := lookUp "DCIM_SESSION_COOKIE"
                  timeout := seconds.map (· * 1000) } base ∧
            ∀ e, server lookUp = .error e ↔
              (addressFaults base ++ cookieFaults (lookUp "DCIM_SESSION_COOKIE") ++
                certificateFaults (lookUp "DCIM_CA").toList).head? = some e := by
  refine ⟨fun hbase => ?_, fun base hbase => ⟨fun text ht hno => ⟨?_, rfl⟩, fun seconds h => ?_⟩⟩
  · rw [server, baseUrl, hbase]
  · rw [server, baseUrl, hbase]
    simp only [readTimeout_of_unread ht hno]
  · have built : server lookUp = (settings lookUp seconds).build base := by
      rw [server, baseUrl, hbase]
      simp only [readTimeout_of_rel h]
    refine ⟨built, fun e => ?_⟩
    rw [built, Settings.build_eq_error, Settings.faults, List.append_assoc]
    rfl

/-- Variables that are all malformed, except that the number of seconds may be one. -/
def malformed (seconds : String) (name : String) : Option String :=
  [("DCIM_BASE_URL", "h"), ("DCIM_SESSION_COOKIE", "\n"), ("DCIM_CA", "-----BEGIN CERTIFICATE-----"),
    ("DCIM_TIMEOUT_SECS", seconds)].lookup name

/-- A base URL and a number of seconds, and no other variable. -/
def plain (name : String) : Option String :=
  [("DCIM_BASE_URL", "http://h"), ("DCIM_TIMEOUT_SECS", "+05")].lookup name

theorem malformed_first_reported :
    server (fun name => if name = "DCIM_BASE_URL" then none else malformed "soon" name) =
      .error (.missingVariable "DCIM_BASE_URL") ∧
    server (malformed "18446744073709551616") = .error (.config (.timeout "18446744073709551616")) ∧
    server (malformed "+018446744073709551615") = .error (.url .relativeWithoutBase) ∧
    server plain = Settings.build { timeout := some 5000 } "http://h" := by
  refine ⟨(misconfigured_or_built _).1 rfl, ?_, ?_, ?_⟩
  · obtain ⟨unread, -⟩ := (misconfigured_or_built (malformed "18446744073709551616")).2 "h" rfl
    refine (unread _ rfl ?_).1
    rintro ⟨n, hn⟩
    have none_read : seconds? "18446744073709551616" = none := by decide +kernel
    rw [seconds?_eq_some.mpr hn] at none_read
    cases none_read
  · obtain ⟨-, read⟩ := (misconfigured_or_built (malformed "+018446744073709551615")).2 "h" rfl
    have largest : seconds? "+018446744073709551615" = some 18446744073709551615 := by decide +kernel
    refine (read _ (.some (seconds?_eq_some.mp largest))).2 _ |>.mpr ?_
    decide +kernel
  · obtain ⟨-, read⟩ := (misconfigured_or_built plain).2 "http://h" rfl
    have five : seconds? "+05" = some 5 := by decide +kernel
    exact (read _ (.some (seconds?_eq_some.mp five))).1

end LinkedSelect.Environment
