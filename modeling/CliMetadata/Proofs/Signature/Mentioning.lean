import CliMetadata.Signature.Text

namespace CliMetadata.TypeSig

mutual

/-- The tokens whose names stand in the text of a type. -/
def tokens : TypeSig → List Token
  | .primitive _ => []
  | .pointer base => base.tokens
  | .byRef base => base.tokens
  | .vector base => base.tokens
  | .pinned base => base.tokens
  | .valueType token => [token]
  | .classType token => [token]
  | .typeVar _ => []
  | .methodVar _ => []
  | .array base _ => base.tokens
  | .generic base args => base.tokens ++ tokensAll args
  | .function ⟨_, _, _, _, result, params⟩ => tokensParam result ++ tokensParams params

def tokensAll : List TypeSig → List Token
  | [] => []
  | t :: ts => t.tokens ++ tokensAll ts

def tokensParam : Parameter TypeSig → List Token
  | ⟨_, base⟩ => base.tokens

def tokensParams : List (Parameter TypeSig) → List Token
  | [] => []
  | p :: ps => tokensParam p ++ tokensParams ps

end

variable {names other : Token → String}

mutual

theorem render_congr : ∀ t : TypeSig, (∀ token ∈ t.tokens, names token = other token) →
    t.render names = t.render other
  | .primitive _, _ => rfl
  | .pointer base, h => by rw [render, render, render_congr base h]
  | .byRef base, h => by rw [render, render, render_congr base h]
  | .vector base, h => by rw [render, render, render_congr base h]
  | .pinned base, h => by rw [render, render, render_congr base h]
  | .valueType token, h => h token (List.mem_singleton_self token)
  | .classType token, h => h token (List.mem_singleton_self token)
  | .typeVar _, _ => rfl
  | .methodVar _, _ => rfl
  | .array base _, h => by rw [render, render, render_congr base h]
  | .generic base args, h => by
    rw [tokens] at h
    obtain ⟨hbase, hargs⟩ := List.forall_mem_append.1 h
    rw [render, render, render_congr base hbase, renderAll_congr args hargs]
  | .function ⟨_, _, _, _, result, params⟩, h => by
    rw [tokens] at h
    obtain ⟨hresult, hparams⟩ := List.forall_mem_append.1 h
    rw [render, render, renderParam_congr result hresult, renderParams_congr params hparams]

theorem renderAll_congr : ∀ ts : List TypeSig, (∀ token ∈ tokensAll ts, names token = other token) →
    renderAll names ts = renderAll other ts
  | [], _ => rfl
  | t :: ts, h => by
    rw [tokensAll] at h
    obtain ⟨ht, hts⟩ := List.forall_mem_append.1 h
    rw [renderAll, renderAll, render_congr t ht, renderAll_congr ts hts]

theorem renderParam_congr : ∀ p : Parameter TypeSig,
    (∀ token ∈ tokensParam p, names token = other token) →
      renderParam names p = renderParam other p
  | ⟨_, base⟩, h => by rw [renderParam, renderParam, render_congr base h]

theorem renderParams_congr : ∀ ps : List (Parameter TypeSig),
    (∀ token ∈ tokensParams ps, names token = other token) →
      renderParams names ps = renderParams other ps
  | [], _ => rfl
  | p :: ps, h => by
    rw [tokensParams] at h
    obtain ⟨hp, hps⟩ := List.forall_mem_append.1 h
    rw [renderParams, renderParams, renderParam_congr p hp, renderParams_congr ps hps]

end

end CliMetadata.TypeSig
