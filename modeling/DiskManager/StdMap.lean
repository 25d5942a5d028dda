import Std.Data.ExtTreeMap
import DiskManager.Text

/-!
# Maps keyed by strings

`std::map<std::string, V>` and `std::unordered_map<std::string, V>`. Two maps are equal when they
hold the same entries. The order in which an unordered map is walked is not part of the map: code
that depends on it asks for an order. The lemmas say what each update does to a lookup.
-/

namespace DiskManager

abbrev StdMap (V : Type) : Type := Std.ExtTreeMap CppString V compare

namespace StdMap

variable {V : Type}

/-- `it->second = f(it->second)` for the entry found under `k`; nothing when there is none. -/
def update (m : StdMap V) (k : CppString) (f : V → V) : StdMap V :=
  m.modify k f

theorem ext {m m' : StdMap V} (same : ∀ k : CppString, m[k]? = m'[k]?) : m = m' :=
  Std.ExtTreeMap.ext_getElem? same

@[simp] theorem get_empty (k : CppString) : (∅ : StdMap V)[k]? = none :=
  Std.ExtTreeMap.getElem?_empty

theorem get_insert (m : StdMap V) (k a : CppString) (v : V) :
    (m.insert k v)[a]? = if k = a then some v else m[a]? := by
  rw [Std.ExtTreeMap.getElem?_insert]
  simp only [Std.LawfulEqCmp.compare_eq_iff_eq]

@[simp] theorem get_insert_self (m : StdMap V) (k : CppString) (v : V) :
    (m.insert k v)[k]? = some v := by
  rw [get_insert, if_pos rfl]

theorem get_insert_ne {m : StdMap V} {k a : CppString} {v : V} (ne : k ≠ a) :
    (m.insert k v)[a]? = m[a]? := by
  rw [get_insert, if_neg ne]

theorem get_erase (m : StdMap V) (k a : CppString) :
    (m.erase k)[a]? = if k = a then none else m[a]? := by
  rw [Std.ExtTreeMap.getElem?_erase]
  simp only [Std.LawfulEqCmp.compare_eq_iff_eq]

@[simp] theorem get_erase_self (m : StdMap V) (k : CppString) : (m.erase k)[k]? = none := by
  rw [get_erase, if_pos rfl]

theorem get_erase_ne {m : StdMap V} {k a : CppString} (ne : k ≠ a) :
    (m.erase k)[a]? = m[a]? := by
  rw [get_erase, if_neg ne]

theorem get_update (m : StdMap V) (k a : CppString) (f : V → V) :
    (m.update k f)[a]? = if k = a then m[a]?.map f else m[a]? := by
  rw [update, Std.ExtTreeMap.getElem?_modify]
  by_cases same : k = a
  · subst same
    simp
  · simp [same]

@[simp] theorem get_update_self (m : StdMap V) (k : CppString) (f : V → V) :
    (m.update k f)[k]? = m[k]?.map f := by
  rw [get_update, if_pos rfl]

theorem get_update_ne {m : StdMap V} {k a : CppString} {f : V → V} (ne : k ≠ a) :
    (m.update k f)[a]? = m[a]? := by
  rw [get_update, if_neg ne]

@[simp] theorem update_update (m : StdMap V) (k : CppString) (f g : V → V) :
    (m.update k f).update k g = m.update k fun v => g (f v) := by
  apply ext
  intro a
  by_cases same : k = a
  · subst same
    simp only [get_update_self, Option.map_map]
    rfl
  · simp only [get_update_ne same]

theorem get_filter (m : StdMap V) (keep : CppString → V → Bool) (a : CppString) :
    (m.filter keep)[a]? = m[a]?.filter (keep a) := by
  rw [Std.ExtTreeMap.getElem?_filter']

theorem mem_toList {m : StdMap V} {k : CppString} {v : V} :
    (k, v) ∈ m.toList ↔ m[k]? = some v :=
  Std.ExtTreeMap.mem_toList_iff_getElem?_eq_some

theorem mem_iff_get {m : StdMap V} {k : CppString} : k ∈ m ↔ ∃ v, m[k]? = some v := by
  rw [Std.ExtTreeMap.mem_iff_isSome_getElem?, Option.isSome_iff_exists]

end StdMap

end DiskManager
