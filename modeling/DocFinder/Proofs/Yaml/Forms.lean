import DocFinder.Proofs.FrontMatter.Extraction
import DocFinder.Proofs.Value.Json
import DocFinder.Proofs.Yaml.Construction

namespace DocFinder.Yaml

open Value

end DocFinder.Yaml
