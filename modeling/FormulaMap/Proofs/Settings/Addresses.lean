import FormulaMap.Proofs.Text.Trimming
import FormulaMap.Settings.Basic

/-!
# Addresses of completions

An endpoint is a base with slashes behind it, where the base does not end in a slash.  The address
of completions depends on the base alone: it is the base itself if that ends in the path of
completions, and otherwise the base with the path behind it.  An address is its own base, so that it
serves as an endpoint too.
-/

namespace FormulaMap
namespace OracleSettings

/-- A number of slashes. -/
def slashes (n : Nat) : String :=
  String.ofList (List.replicate n '/')

/-- Whether a text ends in a slash. -/
def EndsInSlash (text : String) : Prop :=
  text.toList.getLast? = some '/'

/-- Whether a text ends in the path of completions. -/
def IsRouted (text : String) : Prop :=
  ∃ front : String, text = front ++ "/chat/completions"

/-- Whether an endpoint is some base, which does not end in a slash, with slashes behind it. -/
structure HasBase (endpoint base : String) : Prop where
  behind : ∃ n, endpoint = base ++ slashes n
  bare : ¬EndsInSlash base

/-- The settings with another endpoint. -/
def withEndpoint (s : OracleSettings) (endpoint : String) : OracleSettings :=
  { s with endpoint := endpoint }

/-! ## Bases -/

theorem toList_slashes (n : Nat) : (slashes n).toList = List.replicate n '/' :=
  String.toList_ofList

theorem slashes_append (m n : Nat) : slashes m ++ slashes n = slashes (m + n) := by
  rw [slashes, slashes, slashes, ← String.ofList_append, List.replicate_append_replicate]

theorem HasBase.trimEndOf_eq {endpoint base : String} (h : HasBase endpoint base) :
    Text.trimEndOf '/' endpoint.toList = base.toList := by
  obtain ⟨n, rfl⟩ := h.behind
  rw [String.toList_append, toList_slashes, Text.trimEndOf_append_replicate]
  exact Text.trimEndOf_eq_self_iff.mpr h.bare

theorem exists_hasBase (endpoint : String) : ∃ base, HasBase endpoint base := by
  obtain ⟨n, hn⟩ := Text.exists_trimEndOf_append_replicate '/' endpoint.toList
  refine ⟨String.ofList (Text.trimEndOf '/' endpoint.toList), ⟨n, ?_⟩, ?_⟩
  · rw [slashes, ← String.ofList_append, ← hn, String.ofList_toList]
  · rw [EndsInSlash, String.toList_ofList]
    exact Text.getLast?_trimEndOf_ne '/' endpoint.toList

theorem HasBase.unique {endpoint base other : String} (h : HasBase endpoint base)
    (hother : HasBase endpoint other) : other = base := by
  rw [← String.toList_inj, ← hother.trimEndOf_eq, h.trimEndOf_eq]

theorem HasBase.append_slashes {endpoint base : String} (h : HasBase endpoint base) (n : Nat) :
    HasBase (endpoint ++ slashes n) base := by
  obtain ⟨m, rfl⟩ := h.behind
  exact ⟨⟨m + n, by rw [String.append_assoc, slashes_append]⟩, h.bare⟩

/-- A text that does not end in a slash is its own base. -/
theorem hasBase_self {text : String} (h : ¬EndsInSlash text) : HasBase text text :=
  ⟨⟨0, String.append_empty.symm⟩, h⟩

/-! ## Addresses -/

theorem isRouted_iff {text : String} :
    IsRouted text ↔ completionsPath.isSuffixOf text.toList = true := by
  rw [List.isSuffixOf_iff_suffix]
  constructor
  · rintro ⟨front, rfl⟩
    exact ⟨front.toList, String.toList_append.symm⟩
  · rintro ⟨front, hfront⟩
    refine ⟨String.ofList front, ?_⟩
    rw [← String.toList_inj, String.toList_append, String.toList_ofList, ← hfront]
    rfl

theorem IsRouted.not_endsInSlash {text : String} (h : IsRouted text) : ¬EndsInSlash text := by
  obtain ⟨front, rfl⟩ := h
  have hlast : "/chat/completions".toList.getLast? = some 's' := by decide
  rw [EndsInSlash, String.toList_append, List.getLast?_append, hlast, Option.some_or]
  decide

/-- A base that ends in the path is the address. -/
theorem HasBase.completionsUrl_of_isRouted {s : OracleSettings} {base : String}
    (h : HasBase s.endpoint base) (hrouted : IsRouted base) : s.completionsUrl = base := by
  rw [completionsUrl, completionsAddress, h.trimEndOf_eq, if_pos (isRouted_iff.mp hrouted),
    String.ofList_toList]

/-- A base that does not end in the path gets it. -/
theorem HasBase.completionsUrl_of_not_isRouted {s : OracleSettings} {base : String}
    (h : HasBase s.endpoint base) (hrouted : ¬IsRouted base) :
    s.completionsUrl = base ++ "/chat/completions" := by
  rw [completionsUrl, completionsAddress, h.trimEndOf_eq, if_neg (mt isRouted_iff.mpr hrouted),
    String.ofList_append, String.ofList_toList]
  rfl

/-- Two endpoints with one base have the same address. -/
theorem HasBase.completionsUrl_eq {s t : OracleSettings} {base : String}
    (hs : HasBase s.endpoint base) (ht : HasBase t.endpoint base) :
    t.completionsUrl = s.completionsUrl := by
  by_cases hrouted : IsRouted base
  · rw [ht.completionsUrl_of_isRouted hrouted, hs.completionsUrl_of_isRouted hrouted]
  · rw [ht.completionsUrl_of_not_isRouted hrouted, hs.completionsUrl_of_not_isRouted hrouted]

theorem isRouted_completionsUrl (s : OracleSettings) : IsRouted s.completionsUrl := by
  obtain ⟨base, h⟩ := exists_hasBase s.endpoint
  by_cases hrouted : IsRouted base
  · rwa [h.completionsUrl_of_isRouted hrouted]
  · exact ⟨base, h.completionsUrl_of_not_isRouted hrouted⟩

/-- The address of completions ends in their path, and not in a slash.  Slashes behind an endpoint
make no difference to it, and used as an endpoint, with any number of slashes behind it, it gives
itself.  The endpoint has one base alone, and the path is put behind that exactly if it is not there
already. -/
theorem completionsUrl_routed_once (s : OracleSettings) :
    (∀ n, (s.withEndpoint (s.endpoint ++ slashes n)).completionsUrl = s.completionsUrl) ∧
    IsRouted s.completionsUrl ∧ ¬EndsInSlash s.completionsUrl ∧
    (∀ n, (s.withEndpoint (s.completionsUrl ++ slashes n)).completionsUrl = s.completionsUrl) ∧
    ∃ base, (∀ other, HasBase s.endpoint other ↔ other = base) ∧
      (¬IsRouted base → s.completionsUrl = base ++ "/chat/completions") ∧
      (IsRouted base → s.completionsUrl = base) := by
  obtain ⟨base, hbase⟩ := exists_hasBase s.endpoint
  have hrouted : IsRouted s.completionsUrl := isRouted_completionsUrl s
  have hself : HasBase s.completionsUrl s.completionsUrl := hasBase_self hrouted.not_endsInSlash
  refine ⟨?_, hrouted, hrouted.not_endsInSlash, ?_, base, ?_, ?_, ?_⟩
  · intro n
    exact hbase.completionsUrl_eq (hbase.append_slashes n)
  · intro n
    exact HasBase.completionsUrl_of_isRouted (hself.append_slashes n) hrouted
  · intro other
    constructor
    · exact hbase.unique
    · rintro rfl
      exact hbase
  · exact hbase.completionsUrl_of_not_isRouted
  · exact hbase.completionsUrl_of_isRouted

/-- The words of the path without its first slash do not count as the path. -/
example : (initial.withEndpoint "chat/completions//").completionsUrl =
    "chat/completions/chat/completions" := by
  decide

end OracleSettings
end FormulaMap
