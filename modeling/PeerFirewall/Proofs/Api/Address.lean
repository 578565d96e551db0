import PeerFirewall.Proofs.Api.Form
import PeerFirewall.Proofs.Api.Sent

/-!
# Requests that can be sent

A request can be sent if its text is an address (`Request.IsSendable`). It is one where the names in
its path have no character that may not stand there and are not too long (`Request.isSendable`). A
question mark or a number sign is such a character, as it would end the path. Behind a path without
them the server sees the query as it is (`Request.query_of_uri?`).
-/
namespace PeerFirewall

namespace Uri

/-- Whether a text has so many bytes at most and such characters only as may stand in a path. -/
structure Fits (text : String) (most : Nat) : Prop where
  plain : ∀ c ∈ text.toList, inPath c
  short : text.utf8ByteSize ≤ most

instance (text : String) (most : Nat) : Decidable (Fits text most) :=
  decidable_of_iff (text.toList.all inPath ∧ text.utf8ByteSize ≤ most)
    ⟨fun ⟨plain, short⟩ => ⟨List.all_eq_true.1 plain, short⟩,
      fun ⟨plain, short⟩ => ⟨List.all_eq_true.2 plain, short⟩⟩

/-- Texts that follow one another fit if each of them does. -/
theorem Fits.append {one other : String} {most more : Nat} (fits : Fits one most)
    (fitsToo : Fits other more) : Fits (one ++ other) (most + more) where
  plain c isIn := by
    rw [String.toList_append, List.mem_append] at isIn
    exact isIn.elim (fits.plain c) (fitsToo.plain c)
  short := by
    rw [String.utf8ByteSize_append]
    exact Nat.add_le_add fits.short fitsToo.short

/-- The marks that end a path may not stand in it. -/
theorem ne_mark_of_inPath {c : Char} (sound : inPath c) : c ≠ '?' ∧ c ≠ '#' := by
  constructor <;> rintro rfl <;> exact absurd sound (by decide)

/-- What stands before a mark is the path, and the rest is behind it. -/
theorem path_append {path rest : String} (unmarked : ∀ c ∈ path.toList, c ≠ '?' ∧ c ≠ '#')
    (marked : rest = "" ∨ ∃ query, rest = "?" ++ query) :
    (path ++ rest).toList.takeWhile (fun c => c ≠ '?' && c ≠ '#') = path.toList ∧
      (path ++ rest).toList.drop path.toList.length = rest.toList := by
  have ends : rest.toList.takeWhile (fun c => c ≠ '?' && c ≠ '#') = [] := by
    rcases marked with rfl | ⟨query, rfl⟩
    · rfl
    · rw [String.toList_append]
      rfl
  have passes : ∀ c ∈ path.toList, (c ≠ '?' && c ≠ '#') = true := fun c isIn => by
    simpa using unmarked c isIn
  rw [String.toList_append, List.takeWhile_append_of_pos passes, ends, List.append_nil,
    List.drop_left]
  exact ⟨rfl, rfl⟩

/-- A path that fits makes an address with the query behind it, if there is one. -/
theorem parse_of_fits {path rest : String} {most more : Nat} (fits : Fits path most)
    (sound : rest = "" ∨ ∃ query, rest = "?" ++ query ∧ ∀ c ∈ query.toList, inQuery c)
    (small : rest.utf8ByteSize ≤ more) (short : most + more ≤ longest) :
    ∃ uri, parse (path ++ rest) = .ok uri := by
  obtain ⟨isPath, isRest⟩ := path_append (fun c isIn => ne_mark_of_inPath (fits.plain c isIn))
    (sound.imp id fun ⟨query, isQuery, _⟩ => ⟨query, isQuery⟩)
  have size : ¬ (path ++ rest).utf8ByteSize > longest := by
    rw [String.utf8ByteSize_append]
    have := fits.short
    omega
  unfold parse
  simp only [isPath, isRest]
  rw [if_neg size, if_pos]
  · exact ⟨_, rfl⟩
  · refine ⟨List.all_eq_true.2 fits.plain, List.all_eq_true.2 fun c isIn => ?_⟩
    rcases sound with rfl | ⟨query, rfl, sound⟩
    · exact absurd isIn List.not_mem_nil
    · rw [String.toList_append] at isIn
      exact sound c (List.takeWhile_subset _ isIn)

/-- The server sees the parameters of the query behind a path. -/
theorem query_of_parse {path text : String} {uri : Uri}
    (unmarked : ∀ c ∈ path.toList, c ≠ '?' ∧ c ≠ '#') (sound : ∀ c ∈ text.toList, inQuery c)
    (isUri : parse (path ++ ("?" ++ text)) = .ok uri) : uri.query = decodeQuery text.toList := by
  have isText : ("?" ++ text).toList = '?' :: text.toList := by
    rw [String.toList_append]
    rfl
  have whole : text.toList.takeWhile (· ≠ '#') = text.toList := by
    rw [← List.append_nil text.toList, List.takeWhile_append_of_pos, List.takeWhile_nil]
    intro c isIn
    refine decide_eq_true ?_
    rintro rfl
    exact absurd (sound '#' isIn) (by decide)
  obtain ⟨isPath, isRest⟩ := path_append unmarked (.inr ⟨text, rfl⟩)
  unfold parse at isUri
  simp only [isPath, isRest, isText, List.head?_cons, if_true, List.drop_succ_cons, List.drop_zero,
    whole] at isUri
  split at isUri
  · cases isUri
  · split at isUri
    · cases isUri
      rfl
    · cases isUri

end Uri

namespace Request

/-- Whether the text of a request is an address. -/
def IsSendable (request : Request) : Prop := ∃ uri, request.uri? = .ok uri

/-- A request can be sent if its path fits and leaves enough room for what is behind it. -/
theorem isSendable {method : Method} {endpoint : Endpoint} {query : List (String × String)}
    {body : Option Json} {most : Nat} (fits : Uri.Fits endpoint.path most)
    (short : most + ((Uri.encodeQuery query).utf8ByteSize + 2) ≤ Uri.longest) :
    IsSendable ⟨method, endpoint, query, body⟩ := by
  have size : ("?" ++ Uri.queryText query).utf8ByteSize ≤
      (Uri.encodeQuery query).utf8ByteSize + 2 := by
    rw [← Uri.mark_queryText]
    split
    · exact Nat.le_add_left 1 _
    · rw [String.utf8ByteSize_append, Nat.add_comm]
      exact Nat.le_refl _
  unfold IsSendable uri? target
  split
  · exact Uri.parse_of_fits fits (.inl rfl) (Nat.zero_le _) short
  · exact Uri.parse_of_fits fits (.inl rfl) (Nat.zero_le _) short
  · rw [Uri.mark_queryText]
    exact Uri.parse_of_fits fits (.inr ⟨_, rfl, Uri.queryText_inQuery query⟩) size short

/-- The server sees the query of a request for a collection as it is. -/
theorem query_of_uri? {request : Request} {objects : Collection} {uri : Uri}
    (isList : request.endpoint = .collection objects)
    (unmarked : ∀ c ∈ objects.path.toList, c ≠ '?' ∧ c ≠ '#')
    (isUri : request.uri? = .ok uri) : uri.query = request.query := by
  have isTarget : request.target = objects.path ++ ("?" ++ Uri.queryText request.query) := by
    rw [Request.target, isList, ← Uri.mark_queryText]
    cases request.method <;> rfl
  rw [Request.uri?, isTarget] at isUri
  rw [Uri.query_of_parse unmarked (Uri.queryText_inQuery _) isUri, Uri.decodeQuery_queryText]

end Request

/-- The path of a collection in a namespace fits if the namespace and the names of the kind do. -/
theorem Collection.fits_path {kind : Kind} {space : String} {most : Nat}
    (version : Uri.Fits kind.apiVersion 90) (plural : Uri.Fits kind.plural 90)
    (fits : Uri.Fits space most) :
    Uri.Fits (⟨kind, some space⟩ : Collection).path (most + 200) := by
  have root : Uri.Fits (if kind.group = "" then "/api/" else "/apis/") 6 := by
    split <;> decide
  have slash : Uri.Fits "/" 1 := by decide
  have namespaces : Uri.Fits "namespaces/" 11 := by decide
  have path := (((root.append version).append slash).append
    ((namespaces.append fits).append slash)).append plural
  exact ⟨path.plain, Nat.le_trans path.short (by omega)⟩

end PeerFirewall
