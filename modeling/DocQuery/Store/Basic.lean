import DocQuery.Collection.Basic
import DocQuery.Store.Error
import DocQuery.Store.Query

/-!
# Stores

What a store is asked: to find records, to count them and to run a pipeline over them.
-/

namespace DocQuery

/-- What is asked of a store. -/
structure RecordStore where
  find : Collection → FindQuery → Except StoreError (List Document)
  count : Collection → Document → Except StoreError Nat
  aggregate : Collection → List Document → Except StoreError (List Document)

end DocQuery
