import Mathlib.Data.List.Forall2
import Mathlib.Data.Nat.Digits.Defs
import Outbox.Config
import Outbox.Proofs.Text.Blank
import Outbox.Proofs.Text.Digits
/-!
# `Proofs.ConfigReading` — what settings are read from named texts

A number can be written in many ways: with leading zeros, with a plus sign, with white space around
it. This module says which texts denote a number at all, and which number, and then what the settings
read from named texts are: those that the texts denote, where a text is set, and the defaults
elsewhere. If some text denotes no number that fits, the first of them is the failure; if there is
none, and the settings are of no use, the first reason for that. So settings that are of use are read
back from any texts that they are written in.
-/

namespace Outbox.Config

open Text Text.Digits

/-! ## Numbers -/

/-- A text denotes a number: apart from white space around it, it is at most one plus sign and then
decimal digits, the last of which counts ones. -/
def Denotes (text : String) (n : Nat) : Prop :=
  ∃ front sign digits back, text.toList = front ++ (sign ++ digits) ++ back ∧
    (∀ c ∈ front, isBlank c = true) ∧ (sign = [] ∨ sign = ['+']) ∧
    digits ≠ [] ∧ (∀ c ∈ digits, isDigit c = true) ∧ (∀ c ∈ back, isBlank c = true) ∧
    Nat.ofDigits 10 (digits.map value).reverse = n

/-- A number is written in a text, perhaps with leading zeros, with a plus sign and with white space
around it. -/
def Spells (text : String) (n : Nat) : Prop :=
  ∃ front sign zeros back,
    text.toList = front ++ (sign ++ (List.replicate zeros '0' ++ write n)) ++ back ∧
    (∀ c ∈ front, isBlank c = true) ∧ (sign = [] ∨ sign = ['+']) ∧ ∀ c ∈ back, isBlank c = true

section Numbers

variable {text : String} {n bound : Nat}

theorem read_eq_ofDigits (ds : List Char) :
    Digits.read ds = Nat.ofDigits 10 (ds.map value).reverse := by
  rw [Nat.ofDigits_eq_foldr, List.foldr_reverse, List.foldl_map, Digits.read, readFrom]
  simp only [Nat.cast_id, Nat.add_comm]

/-- What a number is read from, once the white space around it is gone. -/
theorem number?_of_trim {sign digits : List Char} (htrim : trim text.toList = sign ++ digits)
    (hsign : sign = [] ∧ digits.head? ≠ some '+' ∨ sign = ['+']) :
    number? bound text = some n ↔ digits ≠ [] ∧ (∀ c ∈ digits, isDigit c = true) ∧
      Digits.read digits < bound ∧ Digits.read digits = n := by
  rw [number?, htrim]
  rcases hsign with ⟨rfl, hhead⟩ | rfl
  · rw [List.nil_append]
    split
    · exact absurd rfl hhead
    · simp [and_assoc]
  · simp [and_assoc]

/-- A number is read from a text if the text denotes it and it is below the bound. -/
theorem number?_eq_some_iff : number? bound text = some n ↔ Denotes text n ∧ n < bound := by
  constructor
  · intro h
    obtain ⟨front, back, htext, hfront, hback⟩ := exists_trim text.toList
    -- a plus sign is taken as the sign, so what follows may begin with another and is then no number
    have hsigned : ∃ sign digits, trim text.toList = sign ++ digits ∧
        (sign = [] ∧ digits.head? ≠ some '+' ∨ sign = ['+']) := by
      by_cases hplus : (trim text.toList).head? = some '+'
      · obtain ⟨digits, hdigits⟩ := List.head?_eq_some_iff.mp hplus
        exact ⟨['+'], digits, hdigits, .inr rfl⟩
      · exact ⟨[], trim text.toList, rfl, .inl ⟨rfl, hplus⟩⟩
    obtain ⟨sign, digits, htrim, hsign⟩ := hsigned
    obtain ⟨hne, hdigits, hbound, rfl⟩ := (number?_of_trim htrim hsign).mp h
    exact ⟨⟨front, sign, digits, back, htrim ▸ htext, hfront, hsign.imp_left And.left, hne, hdigits,
      hback, (read_eq_ofDigits digits).symm⟩, hbound⟩
  · rintro ⟨⟨front, sign, digits, back, htext, hfront, hsign, hne, hdigits, hback, rfl⟩, hbound⟩
    -- trimming stops at the sign and at the last digit, as neither is white space
    have hvisible : ∀ c ∈ sign ++ digits, isBlank c = false := by
      intro c hc
      rcases List.mem_append.mp hc with hc | hc
      · rcases hsign with rfl | rfl
        · cases hc
        · cases List.mem_singleton.mp hc
          rfl
      · exact isBlank_of_isDigit (hdigits c hc)
    have htrim : trim text.toList = sign ++ digits := by
      rw [htext]
      exact trim_append hfront (List.append_ne_nil_of_right_ne_nil sign hne) hvisible hback
    have hhead : digits.head? ≠ some '+' := by
      intro hplus
      cases hdigits '+' (List.mem_of_head? hplus)
    rw [← read_eq_ofDigits] at hbound ⊢
    exact (number?_of_trim htrim (hsign.imp_left fun hnone => ⟨hnone, hhead⟩)).mpr
      ⟨hne, hdigits, hbound, rfl⟩

/-- A text denotes one number at most. -/
theorem Denotes.unique {m : Nat} (hm : Denotes text m) (hn : Denotes text n) : m = n := by
  -- with a bound above both, the reader finds both
  have hread {k : Nat} (h : Denotes text k) (hk : k < m + n + 1) :
      number? (m + n + 1) text = some k := number?_eq_some_iff.mpr ⟨h, hk⟩
  exact Option.some.inj ((hread hm (by omega)).symm.trans (hread hn (by omega)))

/-- A number that is written in a text is denoted by it. -/
theorem Spells.denotes (h : Spells text n) : Denotes text n := by
  obtain ⟨front, sign, zeros, back, htext, hfront, hsign, hback⟩ := h
  refine ⟨front, sign, _, back, htext, hfront, hsign, ?_, ?_, hback, ?_⟩
  · exact List.append_ne_nil_of_right_ne_nil _ (write_ne_nil n)
  · intro c hc
    rcases List.mem_append.mp hc with hc | hc
    · cases (List.mem_replicate.mp hc).2
      rfl
    · exact isDigit_of_mem_write hc
  · rw [← read_eq_ofDigits, read_zeros, read_write]

end Numbers

/-! ## The numbers among the settings -/

/-- A number among the settings: the key that it is read from, its kind, and the number in given
settings. -/
structure Quantity where
  key : String
  kind : NumberKind
  get : Config → Nat

/-- The numbers among the settings, in the order in which they are read. -/
def quantities : List Quantity :=
  [⟨"COURIER_BATCH_SIZE", .size, batchSize⟩,
    ⟨"COURIER_IDLE_BACKOFF_MS", .duration, idleBackoff⟩,
    ⟨"COURIER_ERROR_BACKOFF_MS", .duration, errorBackoff⟩,
    ⟨"COURIER_ACK_RECHECK_ATTEMPTS", .attempts, recheckAttempts⟩,
    ⟨"COURIER_ACK_RECHECK_DELAY_MS", .duration, recheckDelay⟩,
    ⟨"COURIER_STORE_RETRY_ATTEMPTS", .attempts, storeRetries⟩]

/-- A text denotes a number that fits. -/
def Quantity.Takes (q : Quantity) (text : String) (n : Nat) : Prop :=
  Denotes text n ∧ n < q.kind.bound

/-- The number that is to be read: the one that is set, or the default. -/
def Quantity.Holds (q : Quantity) (lookup : String → Option String) (n : Nat) : Prop :=
  match lookup q.key with
  | none => n = q.get default
  | some text => q.Takes text n

/-- The key is set to a text that denotes no number that fits. -/
def Quantity.Offends (q : Quantity) (lookup : String → Option String) (text : String) : Prop :=
  lookup q.key = some text ∧ ∀ n, ¬ q.Takes text n

/-- The first of some numbers that is set to a text that denotes no number that fits, as the failure
that this makes. -/
inductive FirstOffence (lookup : String → Option String) : List Quantity → Failure → Prop
  | here {q : Quantity} {rest : List Quantity} {text : String} (offence : q.Offends lookup text) :
      FirstOffence lookup (q :: rest) (.malformed q.key q.kind text)
  | later {q : Quantity} {rest : List Quantity} {f : Failure}
      (quiet : ∀ text, ¬ q.Offends lookup text) (offence : FirstOffence lookup rest f) :
      FirstOffence lookup (q :: rest) f

/-- Settings are what the texts say. -/
structure Reads (lookup : String → Option String) (c : Config) : Prop where
  numbers : ∀ q ∈ quantities, q.Holds lookup (q.get c)
  exchange : c.exchange = (lookup "COURIER_PUBLISH_EXCHANGE").getD default.exchange
  receiptQueue : c.receiptQueue = (lookup "COURIER_RESULT_QUEUE").getD default.receiptQueue

/-- The texts are the settings in writing. -/
structure Writes (lookup : String → Option String) (c : Config) : Prop where
  numbers : ∀ q ∈ quantities, ∃ text, lookup q.key = some text ∧ Spells text (q.get c)
  exchange : lookup "COURIER_PUBLISH_EXCHANGE" = some c.exchange
  receiptQueue : lookup "COURIER_RESULT_QUEUE" = some c.receiptQueue

/-- The numbers of the settings fit their kinds. -/
def Fits (c : Config) : Prop :=
  ∀ q ∈ quantities, q.get c < q.kind.bound

instance (c : Config) : Decidable c.Fits :=
  inferInstanceAs (Decidable (∀ q ∈ quantities, _))

/-- The first reason why settings are of no use. -/
inductive Lacks (c : Config) : Failure → Prop
  | emptyBatch (batch : c.batchSize = 0) : Lacks c .emptyBatch
  | noIdleBackoff (batch : 0 < c.batchSize) (idle : c.idleBackoff = 0) : Lacks c .noIdleBackoff
  | unnamed (batch : 0 < c.batchSize) (idle : 0 < c.idleBackoff)
      (name : isUnnamed c.exchange = true ∨ isUnnamed c.receiptQueue = true) : Lacks c .unnamed

section Reading

variable {lookup : String → Option String} {c c' : Config} {f f' : Failure} {q : Quantity}
  {qs : List Quantity} {m n : Nat}

/-! ## One number -/

/-- The number is read from what is set, or what is set offends. -/
theorem numberOr_cases (lookup : String → Option String) (q : Quantity) :
    (∃ n, numberOr lookup q.key q.kind (q.get default) = .ok n ∧ q.Holds lookup n) ∨
    ∃ text, numberOr lookup q.key q.kind (q.get default) = .error (.malformed q.key q.kind text) ∧
      q.Offends lookup text := by
  unfold numberOr Quantity.Holds Quantity.Offends
  cases hkey : lookup q.key with
  | none => exact .inl ⟨_, rfl, rfl⟩
  | some text =>
    simp only
    cases hnumber : number? q.kind.bound text with
    | some n => exact .inl ⟨n, rfl, number?_eq_some_iff.mp hnumber⟩
    | none =>
      refine .inr ⟨text, rfl, rfl, fun n hn => ?_⟩
      cases (number?_eq_some_iff.mpr hn).symm.trans hnumber

theorem Quantity.Holds.unique (hm : q.Holds lookup m) (hn : q.Holds lookup n) : m = n := by
  unfold Quantity.Holds at hm hn
  cases hkey : lookup q.key with
  | none =>
    rw [hkey] at hm hn
    exact hm.trans hn.symm
  | some text =>
    rw [hkey] at hm hn
    exact hm.1.unique hn.1

/-- What holds a number does not offend. -/
theorem Quantity.Holds.not_offends (h : q.Holds lookup n) (text : String) :
    ¬ q.Offends lookup text := by
  rintro ⟨hkey, hnone⟩
  rw [Quantity.Holds, hkey] at h
  exact hnone n h

/-! ## All numbers -/

/-- Reads numbers one after the other. -/
def readNumbers (lookup : String → Option String) (qs : List Quantity) : Except Failure (List Nat) :=
  qs.mapM fun q => numberOr lookup q.key q.kind (q.get default)

/-- The numbers are read, or the first that offends is the failure. -/
theorem readNumbers_cases (lookup : String → Option String) (qs : List Quantity) :
    (∃ ns, readNumbers lookup qs = .ok ns ∧ List.Forall₂ (fun q n => q.Holds lookup n) qs ns) ∨
    ∃ f, readNumbers lookup qs = .error f ∧ FirstOffence lookup qs f := by
  -- the failure of a number hides the later ones, and is hidden by none that was read before
  induction qs with
  | nil => exact .inl ⟨[], rfl, .nil⟩
  | cons q rest ih =>
    rw [readNumbers, List.mapM_cons, ← readNumbers]
    obtain ⟨n, hn, hholds⟩ | ⟨text, htext, hoffends⟩ := numberOr_cases lookup q
    · rw [hn]
      obtain ⟨ns, hns, hall⟩ | ⟨f, hf, hoffence⟩ := ih
      · rw [hns]
        exact .inl ⟨n :: ns, rfl, .cons hholds hall⟩
      · rw [hf]
        exact .inr ⟨f, rfl, .later hholds.not_offends hoffence⟩
    · rw [htext]
      exact .inr ⟨_, rfl, .here hoffends⟩

/-- There is one first offence at most. -/
theorem FirstOffence.unique (h : FirstOffence lookup qs f) (h' : FirstOffence lookup qs f') :
    f = f' := by
  induction h with
  | here hoffence =>
    cases h' with
    | here hoffence' => cases hoffence.1.symm.trans hoffence'.1; rfl
    | later hquiet _ => exact absurd hoffence (hquiet _)
  | later hquiet _ ih =>
    cases h' with
    | here hoffence' => exact absurd hoffence' (hquiet _)
    | later _ hoffence' => exact ih hoffence'

theorem FirstOffence.exists_offends (h : FirstOffence lookup qs f) :
    ∃ q ∈ qs, ∃ text, q.Offends lookup text := by
  induction h with
  | here hoffence => exact ⟨_, List.mem_cons_self, _, hoffence⟩
  | later _ _ ih =>
    obtain ⟨q, hq, hoffends⟩ := ih
    exact ⟨q, List.mem_cons_of_mem _ hq, hoffends⟩

/-! ## All settings -/

/-- The settings with given numbers, in the order in which they are read. -/
def ofNumbers (lookup : String → Option String) (ns : List Nat) : Config where
  batchSize := ns.getD 0 0
  idleBackoff := ns.getD 1 0
  errorBackoff := ns.getD 2 0
  exchange := (lookup "COURIER_PUBLISH_EXCHANGE").getD default.exchange
  receiptQueue := (lookup "COURIER_RESULT_QUEUE").getD default.receiptQueue
  recheckAttempts := ns.getD 3 0
  recheckDelay := ns.getD 4 0
  storeRetries := ns.getD 5 0

/-- The settings are read number by number, and then looked at. -/
theorem ofLookup_eq (lookup : String → Option String) :
    ofLookup lookup = do
      let ns ← readNumbers lookup quantities
      (ofNumbers lookup ns).check
      return ofNumbers lookup ns := by
  simp only [readNumbers, quantities, List.mapM_cons, List.mapM_nil, bind_assoc, pure_bind]
  rfl

/-- Numbers that hold make settings that are what the texts say. -/
theorem reads_ofNumbers {ns : List Nat}
    (h : List.Forall₂ (fun q n => q.Holds lookup n) quantities ns) :
    Reads lookup (ofNumbers lookup ns) := by
  refine ⟨?_, rfl, rfl⟩
  simp only [quantities, List.forall₂_cons_left_iff, List.forall₂_nil_left_iff] at h
  obtain ⟨_, _, h₀, ⟨_, _, h₁, ⟨_, _, h₂, ⟨_, _, h₃, ⟨_, _, h₄, ⟨_, _, h₅, rfl, rfl⟩, rfl⟩, rfl⟩, rfl⟩,
    rfl⟩, rfl⟩ := h
  simp only [quantities, List.forall_mem_cons]
  exact ⟨h₀, h₁, h₂, h₃, h₄, h₅, List.forall_mem_nil _⟩

/-- The texts say one thing at most. -/
theorem Reads.unique (h : Reads lookup c) (h' : Reads lookup c') : c = c' := by
  have hnumbers : ∀ q ∈ quantities, q.get c = q.get c' := fun q hq =>
    (h.numbers q hq).unique (h'.numbers q hq)
  have hexchange := h.exchange.trans h'.exchange.symm
  have hqueue := h.receiptQueue.trans h'.receiptQueue.symm
  simp only [quantities, List.forall_mem_cons] at hnumbers
  cases c
  cases c'
  simp_all

theorem Reads.not_offends (h : Reads lookup c) :
    ∀ q ∈ quantities, ∀ text, ¬ q.Offends lookup text :=
  fun q hq => (h.numbers q hq).not_offends

theorem Reads.not_firstOffence (h : Reads lookup c) : ¬ FirstOffence lookup quantities f := by
  intro hfirst
  obtain ⟨q, hq, text, hoffends⟩ := hfirst.exists_offends
  exact h.not_offends q hq text hoffends

/-- Settings say what they are written in. -/
theorem Writes.reads (h : Writes lookup c) (hfits : c.Fits) : Reads lookup c where
  numbers q hq := by
    obtain ⟨text, hkey, hspells⟩ := h.numbers q hq
    rw [Quantity.Holds, hkey]
    exact ⟨hspells.denotes, hfits q hq⟩
  exchange := by rw [h.exchange, Option.getD_some]
  receiptQueue := by rw [h.receiptQueue, Option.getD_some]

/-! ## Whether the settings are of use -/

/-- Settings are of no use for the first reason that applies. -/
theorem check_eq_error_iff : c.check = .error f ↔ c.Lacks f := by
  unfold check
  constructor
  · intro h
    split at h
    · next hbatch =>
      cases h
      exact .emptyBatch hbatch
    · next hbatch =>
      split at h
      · next hidle =>
        cases h
        exact .noIdleBackoff (Nat.pos_of_ne_zero hbatch) hidle
      · next hidle =>
        split at h
        · next hname =>
          cases h
          exact .unnamed (Nat.pos_of_ne_zero hbatch) (Nat.pos_of_ne_zero hidle)
            (Bool.or_eq_true_iff.mp hname)
        · cases h
  · intro h
    cases h with
    | emptyBatch hbatch => rw [if_pos hbatch]
    | noIdleBackoff hbatch hidle => rw [if_neg (Nat.ne_of_gt hbatch), if_pos hidle]
    | unnamed hbatch hidle hname =>
      rw [if_neg (Nat.ne_of_gt hbatch), if_neg (Nat.ne_of_gt hidle),
        if_pos (Bool.or_eq_true_iff.mpr hname)]

/-- What comes of reading the settings. -/
theorem ofLookup_cases (lookup : String → Option String) :
    (∃ c, Reads lookup c ∧ ofLookup lookup = c.check.map fun _ => c) ∨
    ∃ f, FirstOffence lookup quantities f ∧ ofLookup lookup = .error f := by
  rw [ofLookup_eq]
  obtain ⟨ns, hns, hholds⟩ | ⟨f, hf, hoffence⟩ := readNumbers_cases lookup quantities
  · refine .inl ⟨ofNumbers lookup ns, reads_ofNumbers hholds, ?_⟩
    rw [hns]
    change ((ofNumbers lookup ns).check >>= fun _ => pure (ofNumbers lookup ns)) = _
    cases (ofNumbers lookup ns).check <;> rfl
  · rw [hf]
    exact .inr ⟨f, hoffence, rfl⟩

/-- Where the texts say what the settings are, it depends on their use alone whether they are read. -/
theorem Reads.ofLookup_eq (h : Reads lookup c) : ofLookup lookup = c.check.map fun _ => c := by
  obtain ⟨c', hreads, heq⟩ | ⟨f, hoffence, _⟩ := ofLookup_cases lookup
  · rwa [h.unique hreads]
  · exact absurd hoffence h.not_firstOffence

theorem FirstOffence.ofLookup_eq (h : FirstOffence lookup quantities f) :
    ofLookup lookup = .error f := by
  obtain ⟨c, hreads, _⟩ | ⟨f', hoffence, heq⟩ := ofLookup_cases lookup
  · exact absurd h hreads.not_firstOffence
  · rwa [h.unique hoffence]

theorem ofLookup_eq_ok_iff : ofLookup lookup = .ok c ↔ Reads lookup c ∧ c.Usable := by
  rw [← check_eq_ok_iff]
  constructor
  · intro hok
    obtain ⟨c', hreads, heq⟩ | ⟨f, _, heq⟩ := ofLookup_cases lookup
    · cases hcheck : c'.check with
      | ok _ =>
        rw [hcheck] at heq
        cases heq.symm.trans hok
        exact ⟨hreads, hcheck⟩
      | error f =>
        rw [hcheck] at heq
        cases heq.symm.trans hok
    · cases heq.symm.trans hok
  · rintro ⟨hreads, hcheck⟩
    rw [hreads.ofLookup_eq, hcheck]
    rfl

theorem ofLookup_eq_error_iff : ofLookup lookup = .error f ↔
    FirstOffence lookup quantities f ∨ ∃ c, Reads lookup c ∧ c.Lacks f := by
  constructor
  · intro herror
    obtain ⟨c, hreads, heq⟩ | ⟨f', hoffence, heq⟩ := ofLookup_cases lookup
    · cases hcheck : c.check with
      | ok _ =>
        rw [hcheck] at heq
        cases heq.symm.trans herror
      | error f' =>
        rw [hcheck] at heq
        cases heq.symm.trans herror
        exact .inr ⟨c, hreads, check_eq_error_iff.mp hcheck⟩
    · cases heq.symm.trans herror
      exact .inl hoffence
  · rintro (hoffence | ⟨c, hreads, hlacks⟩)
    · exact hoffence.ofLookup_eq
    · rw [hreads.ofLookup_eq, check_eq_error_iff.mpr hlacks]
      rfl

/-- The texts say something as soon as none offends. -/
theorem exists_reads_iff :
    (∃ c, Reads lookup c) ↔ ∀ q ∈ quantities, ∀ text, ¬ q.Offends lookup text := by
  constructor
  · rintro ⟨c, hreads⟩
    exact hreads.not_offends
  · intro hquiet
    obtain ⟨c, hreads, _⟩ | ⟨f, hoffence, _⟩ := ofLookup_cases lookup
    · exact ⟨c, hreads⟩
    · obtain ⟨q, hq, text, hoffends⟩ := hoffence.exists_offends
      exact absurd hoffends (hquiet q hq text)

/-- The settings are read exactly if every number that is set is denoted by its text and fits, and
what the texts then say is of use; they hold what the texts say and nothing else. The failure is the
first number whose text denotes none that fits, and if there is none, the first reason why what the
texts say is of no use. So settings that are of use are read back from whatever texts they are
written in. -/
theorem settings_read (lookup : String → Option String) :
    (∀ c, ofLookup lookup = .ok c ↔ Reads lookup c ∧ c.Usable) ∧
    ((∃! c, Reads lookup c) ↔
      ∀ q ∈ quantities, ∀ text, lookup q.key = some text → ∃ n, q.Takes text n) ∧
    (∀ f, ofLookup lookup = .error f ↔
      FirstOffence lookup quantities f ∨ ∃ c, Reads lookup c ∧ c.Lacks f) ∧
    ∀ c, c.Usable → c.Fits → Writes lookup c → ofLookup lookup = .ok c := by
  refine ⟨fun _ => ofLookup_eq_ok_iff, ?_, fun _ => ofLookup_eq_error_iff, ?_⟩
  · have hunique : (∃! c, Reads lookup c) ↔ ∃ c, Reads lookup c :=
      ⟨ExistsUnique.exists, fun ⟨c, hc⟩ => ⟨c, hc, fun _ hc' => hc'.unique hc⟩⟩
    rw [hunique, exists_reads_iff]
    simp only [Quantity.Offends, not_and, not_forall, not_not]
  · intro c husable hfits hwrites
    exact ofLookup_eq_ok_iff.mpr ⟨hwrites.reads hfits, husable⟩

end Reading

/-- Texts with signs, leading zeros and white space, an ideographic space among them. -/
def untidy (key : String) : Option String :=
  [("COURIER_BATCH_SIZE", " +007\t"), ("COURIER_IDLE_BACKOFF_MS", "\u3000\u30001500"),
    ("COURIER_ERROR_BACKOFF_MS", "+0"), ("COURIER_PUBLISH_EXCHANGE", " letters"),
    ("COURIER_RESULT_QUEUE", "answers"), ("COURIER_ACK_RECHECK_ATTEMPTS", "0001"),
    ("COURIER_ACK_RECHECK_DELAY_MS", "25\n"), ("COURIER_STORE_RETRY_ATTEMPTS", "9")].lookup key

theorem settings_read_untidy :
    ofLookup untidy = .ok ⟨7, 1500, 0, " letters", "answers", 1, 25, 9⟩ ∧
    ofLookup (fun key => if key = "COURIER_IDLE_BACKOFF_MS" then some " - 1" else some "") =
      .error (.malformed "COURIER_BATCH_SIZE" .size "") := by
  constructor
  · refine (settings_read untidy).2.2.2 _ (by decide) (by decide) ⟨?_, by decide, by decide⟩
    simp only [quantities, List.forall_mem_cons]
    refine ⟨⟨" +007\t", by decide, [' '], ['+'], 2, ['\t'], ?_⟩,
      ⟨"\u3000\u30001500", by decide, ['\u3000', '\u3000'], [], 0, [], ?_⟩,
      ⟨"+0", by decide, [], ['+'], 0, [], ?_⟩, ⟨"0001", by decide, [], [], 3, [], ?_⟩,
      ⟨"25\n", by decide, [], [], 0, ['\n'], ?_⟩, ⟨"9", by decide, [], [], 0, [], ?_⟩,
      List.forall_mem_nil _⟩ <;>
    simp [write, symbol] <;> decide
  · refine ((settings_read _).2.2.1 _).mpr (.inl (.here ⟨rfl, fun n hn => ?_⟩))
    cases (number?_eq_some_iff.mpr hn).symm.trans (by decide : number? _ "" = none)

end Outbox.Config
