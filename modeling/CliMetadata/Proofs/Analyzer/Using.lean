import CliMetadata.Proofs.Analyzer.Identifying
import CliMetadata.Proofs.Analyzer.Paging
import CliMetadata.Proofs.Usage.Exact

namespace CliMetadata

def Assembly.readingTwice : Assembly :=
  ([Draft.Edit.addType "App" "Cart" 1 none,
    .addMethod ⟨0x02000001⟩ "get_Total" 0x16 { result := { base := .object } },
    .addMethod ⟨0x02000001⟩ "Main" 0x16 { result := { base := .void } },
    .addProperty ⟨0x02000001⟩ "Total" 0
      { hasThis := false, base := .object, params := [] },
    .setSemantics ⟨0x17000001⟩ ⟨0x06000001⟩ 2,
    .setBody ⟨0x06000002⟩ ⟨[0x28, 1, 0, 0, 6, 0x26, 0x28, 1, 0, 0, 6, 0x26, 0x2A]⟩].foldl
      Draft.Edit.apply (.new "App")).build

namespace Analyzer

end Analyzer

end CliMetadata
