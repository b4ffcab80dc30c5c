import Mathlib.Data.List.Nodup
import Mathlib.Data.List.Perm.Basic
import MiniHypervisor.Control.Keyed

/-!
# Differences of keyed lists

Two lists whose elements carry a key are compared: the elements of one list whose key the other does
not have, and a report for each element whose partner in the other list, the first element with its
key, is not the same.  If no key occurs twice in a list, this finds every difference once: there are
no reports exactly when the lists are permutations of each other.

## Main definitions

* `unmatched` : the elements of a list whose key another list does not have.
* `mismatched` : the reports for the elements whose partner differs.
* `Tells` : a report on two elements with one key is made exactly when they differ.
* `Reports` : three lists of keys say where two keyed lists differ, each key in one list and once.

## Main results

* `perm_iff_of_tells` : nothing is found exactly when one list is a permutation of the other.
* `reports_of_tells` : what is found are the keys at which the lists differ.
-/

namespace MiniHypervisor.Control

variable {α κ μ : Type} {key : α → κ} {keyOf : μ → κ} {between : α → α → Option μ} {l l' : List α}

/-- `between` makes a report on two elements with one key exactly when they differ, and the report
names the key. -/
structure Tells (key : α → κ) (keyOf : μ → κ) (between : α → α → Option μ) : Prop where
  none_iff : ∀ {x y}, key x = key y → (between x y = none ↔ x = y)
  keyOf_eq : ∀ {x y report}, between x y = some report → keyOf report = key x

theorem Tells.exists_report_iff (htells : Tells key keyOf between) {x y : α}
    (hkey : key y = key x) : (∃ report, between x y = some report) ↔ x ≠ y := by
  rw [← Option.ne_none_iff_exists', ne_eq, htells.none_iff hkey.symm]

/-- Three lists of keys say where two keyed lists differ: the keys that only the first has, those
that only the second has, and those with different elements.  No key is named twice. -/
structure Reports (key : α → κ) (l l' : List α) (missing extra differing : List κ) : Prop where
  nodup : (missing ++ extra ++ differing).Nodup
  mem_missing : ∀ k, k ∈ missing ↔ k ∈ l.map key ∧ k ∉ l'.map key
  mem_extra : ∀ k, k ∈ extra ↔ k ∉ l.map key ∧ k ∈ l'.map key
  mem_differing : ∀ k, k ∈ differing ↔ ∃ x ∈ l, ∃ y ∈ l', key x = k ∧ key y = k ∧ x ≠ y

variable [DecidableEq κ]

/-- The elements of `l` whose key `l'` does not have. -/
def unmatched (key : α → κ) (l l' : List α) : List α :=
  l.filter fun x => ¬ l'.any fun y => key y = key x

/-- The reports on the elements of `l` and the first elements of `l'` with their keys. -/
def mismatched (key : α → κ) (between : α → α → Option μ) (l l' : List α) : List μ :=
  l.filterMap fun x => (findKey key (key x) l').bind (between x)

theorem mem_unmatched {x : α} : x ∈ unmatched key l l' ↔ x ∈ l ∧ key x ∉ l'.map key := by
  simp only [unmatched, List.mem_filter, decide_eq_true_eq, List.any_eq_true, List.mem_map]

theorem mem_map_unmatched {k : κ} :
    k ∈ (unmatched key l l').map key ↔ k ∈ l.map key ∧ k ∉ l'.map key := by
  simp only [List.mem_map (l := unmatched key l l'), mem_unmatched]
  constructor
  · rintro ⟨x, ⟨hx, hnot⟩, rfl⟩
    exact ⟨List.mem_map_of_mem hx, hnot⟩
  · rintro ⟨hk, hnot⟩
    obtain ⟨x, hx, rfl⟩ := List.mem_map.mp hk
    exact ⟨x, ⟨hx, hnot⟩, rfl⟩

theorem nodup_map_unmatched (h : (l.map key).Nodup) : ((unmatched key l l').map key).Nodup :=
  h.sublist (List.filter_sublist.map key)

theorem unmatched_eq_nil_iff : unmatched key l l' = [] ↔ ∀ x ∈ l, key x ∈ l'.map key := by
  simp only [List.eq_nil_iff_forall_not_mem, mem_unmatched, not_and, not_not]

/-- If no key occurs twice, the element with a key that is found is the only one. -/
theorem findKey_eq_some_iff_mem (h : (l.map key).Nodup) {k : κ} {x : α} :
    findKey key k l = some x ↔ x ∈ l ∧ key x = k := by
  constructor
  · exact fun hfound => ⟨List.mem_of_find?_eq_some hfound, key_of_findKey hfound⟩
  · rintro ⟨hx, rfl⟩
    obtain ⟨y, hy⟩ : ∃ y, findKey key (key x) l = some y :=
      Option.isSome_iff_exists.mp (List.find?_isSome.mpr ⟨x, hx, decide_eq_true rfl⟩)
    rw [hy, List.inj_on_of_nodup_map h (List.mem_of_find?_eq_some hy) hx (key_of_findKey hy)]

theorem mem_mismatched (h' : (l'.map key).Nodup) {report : μ} :
    report ∈ mismatched key between l l' ↔
      ∃ x ∈ l, ∃ y ∈ l', key y = key x ∧ between x y = some report := by
  simp only [mismatched, List.mem_filterMap, Option.bind_eq_some_iff, findKey_eq_some_iff_mem h',
    and_assoc]

section Tells

variable (htells : Tells key keyOf between)

include htells

theorem mem_map_mismatched (h' : (l'.map key).Nodup) {k : κ} :
    k ∈ (mismatched key between l l').map keyOf ↔
      ∃ x ∈ l, ∃ y ∈ l', key x = k ∧ key y = k ∧ x ≠ y := by
  rw [List.mem_map]
  constructor
  · rintro ⟨report, hreport, rfl⟩
    obtain ⟨x, hx, y, hy, hkey, hsome⟩ := (mem_mismatched h').mp hreport
    rw [htells.keyOf_eq hsome]
    exact ⟨x, hx, y, hy, rfl, hkey, (htells.exists_report_iff hkey).mp ⟨report, hsome⟩⟩
  · rintro ⟨x, hx, y, hy, rfl, hkey, hne⟩
    obtain ⟨report, hsome⟩ := (htells.exists_report_iff hkey).mpr hne
    exact ⟨report, (mem_mismatched h').mpr ⟨x, hx, y, hy, hkey, hsome⟩, htells.keyOf_eq hsome⟩

theorem map_mismatched_sublist :
    ((mismatched key between l l').map keyOf).Sublist (l.map key) := by
  induction l with
  | nil => exact .slnil
  | cons x l ih =>
      cases hreport : (findKey key (key x) l').bind (between x) with
      | none =>
          simp only [mismatched, List.filterMap_cons, hreport]
          exact ih.cons _
      | some report =>
          obtain ⟨y, -, hsome⟩ := Option.bind_eq_some_iff.mp hreport
          simp only [mismatched, List.filterMap_cons, hreport, List.map_cons,
            htells.keyOf_eq hsome]
          exact ih.cons_cons _

theorem mismatched_eq_nil_iff (h' : (l'.map key).Nodup) :
    mismatched key between l l' = [] ↔ ∀ x ∈ l, ∀ y ∈ l', key y = key x → x = y := by
  rw [← List.map_eq_nil_iff (f := keyOf), List.eq_nil_iff_forall_not_mem]
  simp only [mem_map_mismatched htells h', not_exists, not_and, not_not]
  exact ⟨fun h x hx y hy hkey => h _ x hx y hy rfl hkey,
    fun h k x hx y hy hk hk' => h x hx y hy (hk'.trans hk.symm)⟩

/-- **No difference.** Nothing is found exactly when one list is a permutation of the other. -/
theorem perm_iff_of_tells (h : (l.map key).Nodup) (h' : (l'.map key).Nodup) :
    unmatched key l l' = [] ∧ unmatched key l' l = [] ∧ mismatched key between l l' = [] ↔
      l.Perm l' := by
  rw [unmatched_eq_nil_iff, unmatched_eq_nil_iff, mismatched_eq_nil_iff htells h',
    List.perm_ext_iff_of_nodup (.of_map _ h) (.of_map _ h')]
  constructor
  · rintro ⟨hl, hl', hsame⟩ x
    constructor
    · intro hx
      obtain ⟨y, hy, hkey⟩ := List.mem_map.mp (hl x hx)
      exact hsame x hx y hy hkey ▸ hy
    · intro hx
      obtain ⟨y, hy, hkey⟩ := List.mem_map.mp (hl' x hx)
      exact hsame y hy x hx hkey.symm ▸ hy
  · intro hmem
    refine ⟨fun x hx => List.mem_map_of_mem ((hmem x).mp hx),
      fun x hx => List.mem_map_of_mem ((hmem x).mpr hx), fun x hx y hy hkey => ?_⟩
    exact List.inj_on_of_nodup_map h hx ((hmem y).mpr hy) hkey.symm

/-- **Every difference once.** The keys that are found are those at which the lists differ. -/
theorem reports_of_tells (h : (l.map key).Nodup) (h' : (l'.map key).Nodup) :
    Reports key l l' ((unmatched key l l').map key) ((unmatched key l' l).map key)
      ((mismatched key between l l').map keyOf) where
  nodup := by
    refine List.nodup_append'.mpr ⟨List.nodup_append'.mpr ⟨nodup_map_unmatched h,
      nodup_map_unmatched h', ?_⟩, h.sublist (map_mismatched_sublist htells), ?_⟩
    · intro k hmissing hextra
      exact (mem_map_unmatched.mp hextra).2 (mem_map_unmatched.mp hmissing).1
    · intro k hk hdiffers
      obtain ⟨x, hx, y, hy, rfl, hkey, -⟩ := (mem_map_mismatched htells h').mp hdiffers
      rcases List.mem_append.mp hk with hmissing | hextra
      · exact (mem_map_unmatched.mp hmissing).2 (List.mem_map.mpr ⟨y, hy, hkey⟩)
      · exact (mem_map_unmatched.mp hextra).2 (List.mem_map_of_mem hx)
  mem_missing _ := mem_map_unmatched
  mem_extra _ := mem_map_unmatched.trans and_comm
  mem_differing _ := mem_map_mismatched htells h'

end Tells

end MiniHypervisor.Control
