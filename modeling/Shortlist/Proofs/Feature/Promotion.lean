import Shortlist.Proofs.Entity.Promotion
import Shortlist.Proofs.Feature.Calls
/-! What every load ends with: the configured namespaces are promoted, in order, for all entities
that the load is about. -/
namespace Shortlist

namespace Entities

end Entities

namespace FetchSession

end FetchSession
end Shortlist
