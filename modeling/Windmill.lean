import Windmill.Sql.Builder
import Windmill.Sql.Lexer
import Windmill.Sql.Like
import Windmill.Sql.Jsonb
import Windmill.Jobs.Cond
import Windmill.Jobs.Query
import Windmill.Jobs.Filters
import Windmill.Jobs.Scoping
import Windmill.Jobs.Truth
import Windmill.Jobs.Negation
import Windmill.PostgresTriggers.Handler
import Windmill.PostgresTriggers.Publication
import Windmill.PostgresTriggers.Info
import Windmill.Jobs.Wildcards
import Windmill.Worker.RemoveComments
import Windmill.Nativets.Stream
import Windmill.Nativets.Dedicated
import Windmill.ObjectStore.Duckdb
import Windmill.ObjectStore.BucketRestrictions
import Windmill.Nativets.Annotation
import Windmill.Types.S3Permission
