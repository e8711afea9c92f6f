/-
**A list that comes in pages.**

The service hands a list out page by page; a page names the token that asks for the next one. A `Chain`
is what a list of principals meets: pages with a token each, and a response at which it ends.

* `Script.serve_of_upcoming` — what one request takes from a script;
* `listPages_of_chain` — a list along a chain, from any token on;
* `listPrincipals_of_chain` — **a list is the list of all its pages**: each is requested once, with the
  token of the page before it, and a page that cannot be had leaves only its error.
-/

import DeviceTrial.Proofs.Cloud.Exchange

namespace DeviceTrial.Cloud

/-! ### Chains of pages -/

/-- The responses to the requests for one list. -/
structure Chain where
  /-- The pages that are followed by another one, with the token of that. -/
  front : List (Output × String)
  /-- The response at which the list ends. -/
  ending : Response
  /-- Every page in front has its token. -/
  linked : ∀ page ∈ front, page.1.nextToken = some page.2 ∧ page.2 ≠ ""
  /-- A page at the end has none, or an empty one. -/
  ends : ∀ output, ending = .success output →
    output.nextToken = none ∨ output.nextToken = some ""

namespace Chain

/-- The responses in their order. -/
def responses (chain : Chain) : List Response :=
  chain.front.map (fun page => .success page.1) ++ [chain.ending]

/-- The tokens of the requests: the first has none, and each later one has that of the page before. -/
def tokens (chain : Chain) : List (Option String) := none :: chain.front.map fun page => some page.2

/-- The principals of all pages or, when the list ends with an error, only this. -/
def outcome (thing : String) (chain : Chain) : Except PlaneError (List String) :=
  match chain.ending with
  | .success last => .ok (chain.front.flatMap (fun page => page.1.principals) ++ last.principals)
  | response =>
    if response.isResourceNotFound then .error (.notFound (thingResource thing))
    else .error (refusal "ListThingPrincipals" response)

section

variable (chain : Chain) {page : Output × String} {front : List (Output × String)}
  (split : chain.front = page :: front)

/-- What is left of a chain behind its first page. -/
def behind : Chain where
  front := front
  ending := chain.ending
  linked other inside := chain.linked other (split ▸ List.mem_cons_of_mem page inside)
  ends := chain.ends

include split

theorem responses_of_split :
    chain.responses = .success page.1 :: (chain.behind split).responses := by
  rw [responses, split]
  rfl

theorem tokens_of_split : chain.tokens = none :: some page.2 :: (chain.behind split).tokens.tail := by
  rw [tokens, split]
  rfl

theorem outcome_of_split (thing : String) :
    chain.outcome thing =
      ((chain.behind split).outcome thing).map (page.1.principals ++ ·) := by
  unfold outcome
  rw [show (chain.behind split).ending = chain.ending from rfl]
  cases chain.ending with
  | success last =>
    dsimp only
    rw [split, List.flatMap_cons, List.append_assoc]
    rfl
  | serviceError | unreachable | unreadable =>
    dsimp only
    split_ifs <;> rfl

end

end Chain

/-! ### Requests -/

/-- What one request takes from a script: the response at the front, unless it is the last one. -/
theorem Script.serve_of_upcoming (request : Request) {script : Script} {response : Response}
    {rest : List Response} (online : script.online = true)
    (queued : script.upcoming request.operation = response :: rest) :
    ∃ after, script.serve request = (response, after) ∧ after.online = true ∧
      after.requests = script.requests ++ [request] ∧
      (rest ≠ [] → after.upcoming request.operation = rest) := by
  generalize served : script.serve request = answered
  obtain ⟨given, after⟩ := answered
  have kept := Script.serve_requests online request
  rw [served] at kept
  obtain ⟨still, ⟨none, -⟩ | ⟨here, -⟩ | ⟨second, others, several, left⟩⟩ := serve_cases online served
  · cases queued.symm.trans none
  · cases queued.symm.trans here
    exact ⟨after, rfl, still, kept, fun more => absurd rfl more⟩
  · cases queued.symm.trans several
    exact ⟨after, rfl, still, kept, fun _ => left⟩

theorem nextToken?_eq_some {output : Output} {token : String}
    (named : output.nextToken = some token) (filled : token ≠ "") :
    nextToken? output = some token := by
  rw [nextToken?, named]
  simp [Option.filter, filled]

theorem nextToken?_eq_none {output : Output}
    (unnamed : output.nextToken = none ∨ output.nextToken = some "") : nextToken? output = none := by
  rcases unnamed with none | empty
  · rw [nextToken?, none]
    rfl
  · rw [nextToken?, empty]
    rfl

/-! ### Lists -/

/-- **A list along a chain**, from any token on. -/
theorem listPages_of_chain (thing : String) (chain : Chain) (token : Option String)
    {others : List Response} {fuel : Nat} {script : Script} (online : script.online = true)
    (queued : script.upcoming "ListThingPrincipals" = chain.responses ++ others)
    (enough : chain.front.length < fuel) :
    (listPages thing fuel token script).1 = some (chain.outcome thing) ∧
      (listPages thing fuel token script).2.requests = script.requests ++
        (token :: chain.tokens.tail).map (.listThingPrincipals thing) := by
  generalize pages : chain.front = front at enough
  induction front generalizing chain fuel token script with
  | nil =>
    obtain ⟨fuel, rfl⟩ := Nat.exists_eq_succ_of_ne_zero (Nat.ne_zero_of_lt enough)
    rw [Chain.responses, pages] at queued
    obtain ⟨after, served, -, kept, -⟩ :=
      Script.serve_of_upcoming (.listThingPrincipals thing token) online queued
    have sent := send_of_served served (some (thingResource thing))
    rw [Chain.tokens, pages, Chain.outcome, pages]
    cases ending : chain.ending with
    | success last =>
      rw [ending] at sent
      rw [listPages_of_last sent (nextToken?_eq_none (chain.ends last ending))]
      exact ⟨rfl, kept⟩
    | serviceError | unreachable | unreadable =>
      rw [ending] at sent
      rw [listPages, sent]
      dsimp only [outputOf]
      split_ifs <;> exact ⟨rfl, kept⟩
  | cons page front step =>
    obtain ⟨fuel, rfl⟩ := Nat.exists_eq_succ_of_ne_zero (Nat.ne_zero_of_lt enough)
    obtain ⟨named, filled⟩ := chain.linked page (pages ▸ List.mem_cons_self)
    rw [chain.responses_of_split pages] at queued
    obtain ⟨after, served, still, kept, left⟩ :=
      Script.serve_of_upcoming (.listThingPrincipals thing token) online queued
    have sent := send_of_served served (some (thingResource thing))
    have several : (chain.behind pages).responses ++ others ≠ [] := by simp [Chain.responses]
    obtain ⟨reply, requests⟩ := step (chain.behind pages) (some page.2) still (left several) rfl
      (Nat.lt_of_succ_lt_succ enough)
    rw [listPages_of_more sent (nextToken?_eq_some named filled), reply, requests, kept,
      chain.outcome_of_split pages, chain.tokens_of_split pages]
    exact ⟨rfl, List.append_assoc _ _ _⟩

/-- **A list is the list of all its pages.** Each page is requested once, the first without a token and
each later one with the token of the page before, and all principals come in their order. A page that
cannot be had is the last one to be requested, and only its error is left. -/
theorem listPrincipals_of_chain (thing : String) (chain : Chain) (others : List Response)
    (script : Script) (online : script.online = true)
    (queued : script.upcoming "ListThingPrincipals" = chain.responses ++ others) :
    (answer (.listPrincipals thing) script).1 =
      (match chain.outcome thing with
        | .ok principals => .ok principals
        | .error fault => .error fault) ∧
      (answer (.listPrincipals thing) script).2.requests =
        script.requests ++ chain.tokens.map (.listThingPrincipals thing) := by
  have enough : chain.front.length < pageBound script := by
    rw [pageBound, queued, Chain.responses, List.length_append, List.length_append, List.length_map]
    omega
  obtain ⟨reply, requests⟩ := listPages_of_chain thing chain none online queued enough
  show (listPrincipals thing script).1 = _ ∧ (listPrincipals thing script).2.requests = _
  unfold listPrincipals
  generalize listPages thing (pageBound script) none script = listed at reply requests
  obtain ⟨result, after⟩ := listed
  cases reply
  cases chain.outcome thing <;> exact ⟨rfl, requests⟩

/-- Three pages; the second is empty, and the last names an empty token. -/
def threePages : Chain where
  front := [({ Output.empty with principals := ["a", "b"], nextToken := some "one" }, "one"),
    ({ Output.empty with nextToken := some "two" }, "two")]
  ending := .success { Output.empty with principals := ["c"], nextToken := some "" }
  linked := by simp
  ends := by
    rintro _ ⟨⟩
    exact .inr rfl

/-- A list of three pages. -/
theorem listPrincipals_threePages :
    let script := Script.start (Table.empty.insert "ListThingPrincipals" threePages.responses) true
    (answer (.listPrincipals "t") script).1 = .ok ["a", "b", "c"] ∧
      (answer (.listPrincipals "t") script).2.requests =
        [.listThingPrincipals "t" none, .listThingPrincipals "t" (some "one"),
          .listThingPrincipals "t" (some "two")] := by
  have queued : (Table.empty.insert "ListThingPrincipals" threePages.responses).get?
      "ListThingPrincipals" = some threePages.responses := Table.get?_insert_self _ _ _
  exact listPrincipals_of_chain "t" threePages [] _ rfl
    (by rw [Script.upcoming, Script.start, queued, List.append_nil]; rfl)

end DeviceTrial.Cloud
