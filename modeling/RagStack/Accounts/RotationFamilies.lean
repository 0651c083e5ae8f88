import RagStack.Accounts.Rotation
import RagStack.Core.PointerChain

/-!
# Rotation families

The sessions that one device has had, connected by `replaced_by_session_id`.

A family is not stored anywhere.  It is what one gets from a session by following pointers in both
directions, so it is defined as the equivalence class of the pointer relation, and that it is a
finite chain is a theorem.  The proof takes the four properties of the invariant: pointers are
injective and increase, so a chain cannot close or branch, and it has a first member because keys
cannot decrease for ever.  An active session has no pointer, so it can only be the last member, and
a family has at most one of them.

What a refresh token is worth follows from the chain.  The token belongs to one session, the session
can be replaced once, and the replacement is in the pointer that the session keeps from then on.
Two calls that were both answered with tokens for one old token have both left their pointer in its
row, so it is the same pointer.

The run at the end has two refreshes in progress with one token, where both have inserted their
replacement before either of them claims the session.

* `RotationSound` — what the pointers of a committed state look like: each family is a finite chain
  of one user's sessions, with at most one active session, its last.
* `rotation_families` — this holds after any interleaving of calls, revoked sessions stay revoked,
  and a refresh token is exchanged for one replacement only.
-/

namespace RagStack

/-- `b` is in the rotation family of `a`: one gets from one to the other along pointers, in either
direction. -/
def InFamily (rows : Rows Row) (a b : Uuid) : Prop :=
  Relation.EqvGen (Points (replacementOf rows)) a b

/-- The members of a family in the order of their rotations. -/
structure IsFamily (rows : Rows Row) (family : List Uuid) : Prop where
  chain : WholeChain (replacementOf rows) family
  nodup : family.Nodup
  oneUser : ∃ userId, ∀ a ∈ family, ∃ s, rows a = some (.AuthSession s) ∧ s.userId = userId
  active : ∀ a ∈ family, IsActive rows a → family.getLast? = some a

/-- **The pointers of a committed state**, as they look from outside.  Pointers are injective and
have no cycle, they stay with one user, only revoked sessions have one, and the family of every
session is a chain. -/
structure RotationSound (rows : Rows Row) : Prop where
  injective : ∀ a b c, replacementOf rows a = some c → replacementOf rows b = some c → a = b
  acyclic : ∀ a, ¬ Relation.TransGen (Points (replacementOf rows)) a a
  owner : ∀ a b, replacementOf rows a = some b → SameUser rows a b
  revoked : ∀ a b, replacementOf rows a = some b → IsRevoked rows a
  families : ∀ a s, rows a = some (.AuthSession s) →
    ∃ family, (∀ b, b ∈ family ↔ InFamily rows a b) ∧ IsFamily rows family

def sessionUser (rows : Rows Row) (id : Uuid) : Option Uuid :=
  match rows id with
  | some (.AuthSession session) => some session.userId
  | _ => none

lemma sessionUser_of_eq {rows : Rows Row} {id : Uuid} {s : AuthSession}
    (h : rows id = some (.AuthSession s)) : sessionUser rows id = some s.userId := by
  simp [sessionUser, h]

lemma exists_of_sessionUser {rows : Rows Row} {id userId : Uuid}
    (h : sessionUser rows id = some userId) :
    ∃ s, rows id = some (.AuthSession s) ∧ s.userId = userId := by
  simp only [sessionUser] at h
  split at h
  · rename_i s hs
    exact ⟨s, hs, Option.some.inj h⟩
  · cases h

namespace RotationInvariant

variable {rows : Rows Row}

lemma linked (h : RotationInvariant rows) {bound : ℕ} (hbound : ∀ k r, rows k = some r → k < bound) :
    Linked (replacementOf rows) id bound := by
  refine ⟨h.injective, h.increases, fun a b hab => ?_⟩
  obtain ⟨-, t, -, ht, -⟩ := h.owner a b hab
  exact hbound b _ ht

lemma sessionUser_eq (h : RotationInvariant rows) {a b : Uuid} (hab : InFamily rows a b) :
    sessionUser rows a = sessionUser rows b := by
  induction hab with
  | rel a b hab =>
      obtain ⟨s, t, hs, ht, huser⟩ := h.owner a b hab
      rw [sessionUser_of_eq hs, sessionUser_of_eq ht, huser]
  | refl a => rfl
  | symm a b _ ih => exact ih.symm
  | trans a b c _ _ ih ih' => exact ih.trans ih'

/-- **What the invariant says about families.** -/
theorem sound (h : RotationInvariant rows) {bound : ℕ} (hbound : ∀ k r, rows k = some r → k < bound) :
    RotationSound rows := by
  have hlinked := h.linked hbound
  refine ⟨h.injective, hlinked.not_transGen_self, h.owner, h.revoked, fun a s hs => ?_⟩
  obtain ⟨family, ha, hchain⟩ := hlinked.exists_family a
  have hmem : ∀ b, b ∈ family ↔ InFamily rows a b :=
    fun b => hchain.mem_iff_eqvGen h.injective ha
  refine ⟨family, hmem, hchain, hlinked.nodup_of_isChain hchain.chain, ⟨s.userId, ?_⟩, ?_⟩
  · intro b hb
    refine exists_of_sessionUser ?_
    rw [← h.sessionUser_eq ((hmem b).mp hb), sessionUser_of_eq hs]
  · intro b hb hactive
    exact hchain.eq_last hb (h.replacementOf_active hactive)

end RotationInvariant

section Main

variable {n : ℕ} {service : TokenService} {rows : List (Option Row)} {calls : Fin n → AuthCall}
  {acts more : List (Fin n × Action)} {sys sys' : Sys n Row Statement Reply}

/-- **Rotation families.**  After any interleaving of calls that began without sessions, the
pointers are sound, later steps revive no session, and two calls that exchanged the same refresh
token name the same replacement.  The calls may be any number of sign-ins, sign-ups, refreshes and
revocations of any users, aborted or not. -/
theorem rotation_families (hempty : ∀ s, some (.AuthSession s) ∉ rows)
    (hrun : (authSystem service rows calls).run accountSchema acts = some sys)
    (hmore : sys.run accountSchema more = some sys') :
    RotationSound sys.db.rows
      ∧ (∀ id, IsRevoked sys.db.rows id → IsRevoked sys'.db.rows id)
      ∧ ∀ i j rawToken input input' id id' tokens tokens',
        calls i = .Refresh rawToken input → calls j = .Refresh rawToken input' →
          (sys.procs i).prog = .done (.Refreshed id tokens) →
            (sys.procs j).prog = .done (.Refreshed id' tokens') → id = id' := by
  have hsecure := authSystem_run hempty hrun
  refine ⟨hsecure.inv.sound hsecure.locked.generated, fun id hrevoked => ?_, ?_⟩
  · refine hrevoked.moves (hsecure.run_guar (G := fun rows rows' => ∀ k, SessionMoves (rows k)
      (rows' k)) (.of_forall _ authContracts_admissible _ _) hmore ?_ ?_ ?_)
    · exact fun _ _ => .refl _
    · exact fun _ _ _ h h' k => (h k).trans (h' k)
    · exact fun _ _ _ _ hguar => hguar.1
  · intro i j rawToken input input' id id' tokens tokens' hi hj hi' hj'
    obtain ⟨a, ha, -, hid⟩ := hsecure.post hi' id tokens rfl
    obtain ⟨b, hb, -, hid'⟩ := hsecure.post hj' id' tokens' rfl
    rw [hi] at ha
    rw [hj] at hb
    cases ha.symm.trans hb
    exact Option.some.inj (hid.symm.trans hid')

end Main

/-! ## Two refreshes with one token

The user signs in, and then two calls present the token at the same time.  The second one finds the
session claimed, although it had read it as active. -/

/-- Tokens that show the session they belong to, all of the user `0`. -/
def sessionTokens : TokenService where
  sign type claims := String.ofList
    ((if type = .Access then 'a' else 'r') :: List.replicate claims.sessionId '.')
  verify type token :=
    let id := token.toList.length - 1
    if token.toList.head? = some (if type = .Access then 'a' else 'r') then some ⟨0, id, id, type⟩
    else none
  hashToken token := token

/-- What a request without metadata contributes, at the time `10`. -/
def plainInput (placeholder : String) : SessionInput := ⟨none, none, 100, 10, placeholder, 0⟩

/-- A sign-in, and two refreshes with the token it returns. -/
def racingCalls : Fin 3 → AuthCall
  | 0 => .SignIn "user@example.com" (fun _ => true) none (plainInput "first")
  | 1 => .Refresh "r." (plainInput "second")
  | 2 => .Refresh "r." (plainInput "third")

/-- The only row before them. -/
def oneUser : List (Option Row) := [some (.User ⟨"user@example.com", "hash", none⟩)]

attribute [local instance] neZero_three in
/-- Both refreshes insert a replacement before the first of them claims the session. -/
def racingActs : List (Fin 3 × Action) :=
  [(0, .Proceed), (0, .Proceed), (0, .Proceed), (0, .Visit 1), (0, .Proceed), (0, .Proceed),
    (1, .Proceed), (2, .Proceed), (1, .Proceed), (2, .Proceed), (1, .Proceed), (1, .Visit 2),
    (1, .Proceed), (2, .Proceed), (2, .Visit 3), (2, .Proceed), (1, .Proceed), (2, .Proceed),
    (1, .Visit 1), (1, .Proceed), (1, .Proceed), (2, .Visit 1), (2, .Proceed), (2, .Proceed)]

/-- The second refresh has lost. -/
theorem rotation_families_racing : ∃ sys,
    (authSystem sessionTokens oneUser racingCalls).run accountSchema racingActs = some sys
      ∧ RotationSound sys.db.rows ∧ replacementOf sys.db.rows 1 = some 2
      ∧ (sys.procs 2).prog matches .done (.Unauthorized _) := by
  have hruns : ((authSystem sessionTokens oneUser racingCalls).run accountSchema racingActs).any
      (fun sys => replacementOf sys.db.rows 1 == some 2
        && (sys.procs 2).prog matches .done (.Unauthorized _)) = true := by decide +kernel
  obtain ⟨sys, hrun, hend⟩ := (Option.any_eq_true _ _).mp hruns
  rw [Bool.and_eq_true, beq_iff_eq] at hend
  exact ⟨sys, hrun, (rotation_families (by simp [oneUser]) hrun
    (show sys.run accountSchema [] = some sys from rfl)).1, hend⟩

end RagStack
