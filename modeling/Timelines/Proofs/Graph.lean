import Timelines.Graph
import Timelines.Proofs.Url.Segments

/-! Where a social graph keeps its users.

The URL of a user is made of segments put behind the path of the base. For ids and parts that are
kept as they are it is known in full (`userUrl_of_kept`), and nothing is lost in it
(`user_eq_of_target`); the id of another user cannot be read back from it
(`userUrl_of_not_kept`). -/
namespace Timelines.Graph
open Url

/-- What stands below the base for a user, or for what comes with the user. -/
def below (user : UserId) (part : Option String) : List String :=
  "users" :: user.text :: part.toList

section
variable {base : Url} {parts : List String}

/-- Where the users of a graph are. -/
def users (base : Url) (parts : List String) : Url :=
  { base with path := .segments (trunk parts ++ [written base.special "users"]) }

theorem users_eq (hbase : base.path = .segments parts) :
    base.popIfEmpty.push "users" = users base parts := by
  obtain ⟨parts', hpop, hfront⟩ := popIfEmpty_eq hbase
  rw [hpop, push_of_kept rfl (by decide), hfront]
  rfl

theorem front_users (special : Bool) :
    front (trunk parts ++ [written special "users"]) =
      trunk parts ++ [written special "users"] := by
  refine if_neg fun h => ?_
  have hlast := congrArg List.getLast? h
  rw [List.getLast?_concat, List.getLast?_singleton, Option.some_inj] at hlast
  revert hlast
  cases special <;> decide

theorem userUrl_none (base : Url) (user : UserId) :
    userUrl base user none = (base.popIfEmpty.push "users").push user.text := rfl

theorem userUrl_some (base : Url) (user : UserId) (part : String) :
    userUrl base user (some part) = (userUrl base user none).push part := rfl

theorem userUrl_of_kept (hbase : base.path = .segments parts) {user : UserId}
    (huser : Kept user.text) {part : Option String} (hpart : ∀ p ∈ part, Kept p) :
    userUrl base user part = { base with
      path := .segments (trunk parts ++ (below user part).map (written base.special)) } := by
  have hnone : userUrl base user none = { base with
      path := .segments (trunk parts ++ (below user none).map (written base.special)) } := by
    rw [userUrl_none, users_eq hbase, push_of_kept rfl huser, front_users, List.append_assoc]
    rfl
  cases part with
  | none => exact hnone
  | some p =>
    have hlong : trunk parts ++ (below user none).map (written base.special) ≠ [""] := by
      simp [below, List.append_eq_singleton_iff]
    rw [userUrl_some, hnone, push_of_kept rfl (hpart p rfl), front, if_neg hlong,
      List.append_assoc]
    rfl

/-- An id that is not kept is not to be found in its URL. -/
theorem userUrl_of_not_kept (hbase : base.path = .segments parts) {user : UserId}
    (huser : ¬Kept user.text) {part : Option String} (hpart : ∀ p ∈ part, Kept p) :
    ∃ parts', userUrl base user part = { base with path := .segments parts' } ∧
      parts'.map decoded ≠
        (trunk parts).map decoded ++ (below user part).map String.toByteArray := by
  have hpath : (users base parts).path =
      .segments (trunk parts ++ [written base.special "users"]) := rfl
  obtain ⟨parts', hnone, hshort⟩ := push_of_not_kept hpath (by rw [front_users]; simp) huser
  rw [← users_eq hbase, ← userUrl_none] at hnone
  cases part with
  | none =>
    refine ⟨parts', by rw [hnone, users_eq hbase]; rfl, fun he => ?_⟩
    obtain hshort | ⟨w, rfl, hw⟩ := hshort
    · have := congrArg List.length he
      simp [below] at this hshort
      omega
    · simp [below, hw] at he
  | some p =>
    have hsome : userUrl base user (some p) = { base with
        path := .segments (front parts' ++ [written base.special p]) } := by
      rw [userUrl_some, hnone, push_of_kept rfl (hpart p rfl), users_eq hbase]
      rfl
    refine ⟨_, hsome, fun he => ?_⟩
    rw [List.map_append, List.map_singleton, decoded_written] at he
    obtain hshort | ⟨w, rfl, hw⟩ := hshort
    · have hfront := length_front_le parts'
      have := congrArg List.length he
      simp [below] at this hshort
      omega
    · have hlong : trunk parts ++ [written base.special "users"] ++ [w] ≠ [""] := by
        simp [List.append_eq_singleton_iff]
      rw [front, if_neg hlong] at he
      simp [below, hw] at he

/-- What comes with a user, as it is written behind the user. -/
def partText (special : Bool) (part : Option String) : List Char :=
  part.toList.flatMap fun p => '/' :: (written special p).toList

theorem target_of_kept (hbase : base.path = .segments parts) {user : UserId}
    (huser : Kept user.text) {part : Option String} (hpart : ∀ p ∈ part, Kept p) :
    (userUrl base user part).target.toList =
      (trunk parts ++ [written base.special "users"]).flatMap (fun s => '/' :: s.toList) ++
        '/' :: ((written base.special user.text).toList ++ partText base.special part) ++
          base.queryText.toList := by
  rw [userUrl_of_kept hbase huser hpart, target, String.toList_append, toList_text_segments]
  simp [below, queryText, partText, List.flatMap_map]

theorem takeWhile_partText (special : Bool) (s : String) (part : Option String) :
    ((written special s).toList ++ partText special part).takeWhile (· != '/') =
      (written special s).toList := by
  rw [List.takeWhile_append_of_pos]
  · cases part <;> simp [partText]
  · intro c hc
    exact bne_iff_ne.mpr fun he => slash_not_mem_written special s (he ▸ hc)

theorem partText_injective {special : Bool} {s t : Option String}
    (h : partText special s = partText special t) : s = t := by
  cases s with
  | none =>
    cases t with
    | none => rfl
    | some t => simp [partText] at h
  | some s =>
    cases t with
    | none => simp [partText] at h
    | some t =>
      have hwritten : (written special s).toList = (written special t).toList := by
        simpa [partText] using h
      rw [written_injective (String.toList_inj.mp hwritten)]

/-- Requests for kept users and parts tell both from each other. -/
theorem user_eq_of_target (hbase : base.path = .segments parts) {u v : UserId}
    (hu : Kept u.text) (hv : Kept v.text) {s t : Option String} (hs : ∀ p ∈ s, Kept p)
    (ht : ∀ p ∈ t, Kept p) (h : (userUrl base u s).target = (userUrl base v t).target) :
    u = v ∧ s = t := by
  have hlist := congrArg String.toList h
  rw [target_of_kept hbase hu hs, target_of_kept hbase hv ht, List.append_left_inj,
    List.append_right_inj, List.cons_inj_right] at hlist
  have huser := congrArg (List.takeWhile (· != '/')) hlist
  rw [takeWhile_partText, takeWhile_partText, String.toList_inj] at huser
  rw [huser, List.append_right_inj] at hlist
  obtain ⟨u⟩ := u
  obtain ⟨v⟩ := v
  exact ⟨congrArg UserId.mk (written_injective huser), partText_injective hlist⟩

end

/-- **Users are told apart.** On a base that can be one, as all of the web are
(`Url.canBeBase_of_parse`), a user's URL is the base with the segments of its path, less one empty
last segment, then `users`, the id and what comes with the user, each of them unchanged when it is
read back, just if the id is no step and holds no tab and no line break; the lone empty segment of a
path of two slashes is dropped, too. Requests for such users, and what comes with them, differ. -/
theorem userUrl_tells_users_apart {base : Url} (hbase : base.canBeBase) :
    (∀ (user : UserId) (part : Option String), (∀ p ∈ part, Kept p) →
      ∃ parts, userUrl base user part = { base with path := .segments parts } ∧
        (parts.map decoded = (trunk base.path.parts).map decoded ++
          (below user part).map String.toByteArray ↔ Kept user.text)) ∧
    ∀ (u v : UserId) (s t : Option String), Kept u.text → Kept v.text → (∀ p ∈ s, Kept p) →
      (∀ p ∈ t, Kept p) → (userUrl base u s).target = (userUrl base v t).target →
        u = v ∧ s = t := by
  obtain ⟨parts, hparts⟩ : ∃ parts, base.path = .segments parts := by
    cases hpath : base.path with
    | segments parts => exact ⟨parts, rfl⟩
    | plain text => simp [canBeBase, hpath] at hbase
  rw [hparts, Path.parts]
  refine ⟨fun user part hpart => ?_,
    fun u v s t hu hv hs ht => user_eq_of_target hparts hu hv hs ht⟩
  by_cases huser : Kept user.text
  · refine ⟨_, userUrl_of_kept hparts huser hpart, iff_of_true ?_ huser⟩
    rw [List.map_append, map_decoded_written]
  · obtain ⟨parts', hurl, hne⟩ := userUrl_of_not_kept hparts huser hpart
    exact ⟨parts', hurl, iff_of_false hne huser⟩

/-- A graph below the path `/api/` of a host. -/
def site : Url := ⟨"http", "", "", some (.domain "graph"), none, .segments ["api", ""], none, none⟩

/-- What a path means by a slash, a percent sign or a question mark is no part of the path here. -/
theorem userUrl_of_slash :
    (userUrl site ⟨"a/b%2e?"⟩ (some "followers")).text =
        "http://graph/api/users/a%2Fb%252e%3F/followers" ∧
      (∃ parts,
        userUrl site ⟨"a/b%2e?"⟩ (some "followers") = { site with path := .segments parts } ∧
        parts.map decoded = ["api", "users", "a/b%2e?", "followers"].map String.toByteArray) ∧
      (userUrl site ⟨"a/b%2e?"⟩ none).target ≠ (userUrl site ⟨"a/b."⟩ none).target := by
  have h := userUrl_tells_users_apart (show site.canBeBase from rfl)
  refine ⟨by decide +kernel, ?_, fun he => ?_⟩
  · obtain ⟨parts, hurl, hparts⟩ := h.1 ⟨"a/b%2e?"⟩ (some "followers") (by simp; decide)
    exact ⟨parts, hurl, (hparts.mpr (by decide)).trans (by decide)⟩
  · have huser := h.2 ⟨"a/b%2e?"⟩ ⟨"a/b."⟩ none none (by decide) (by decide) (by simp) (by simp) he
    exact absurd huser.1 (by decide)

/-- Two users whose ids are allowed have the same URL: a tab vanishes from it. -/
theorem users_not_always_apart :
    ¬∀ (a b : String) (u v : UserId), UserId.parse a = .ok u → UserId.parse b = .ok v →
      userUrl site u none = userUrl site v none → u = v := by
  intro h
  have := h "a\tb" "ab" ⟨"a\tb"⟩ ⟨"ab"⟩ rfl rfl (by decide)
  exact absurd this (by decide)

end Timelines.Graph
