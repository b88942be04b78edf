/-! Features that are counted for each subscriber and UTC day. -/
namespace SubscriptionBilling

inductive Feature where
  | esgCalculation
  | monteCarloSimulation
  | goalProbability
  | scenarioAnalysis
  | portfolioRebalance
  | apiRequest
  deriving DecidableEq, Repr, Inhabited

namespace Feature

def all : List Feature :=
  [esgCalculation, monteCarloSimulation, goalProbability, scenarioAnalysis, portfolioRebalance,
    apiRequest]

def name : Feature → String
  | esgCalculation => "esg_calculation"
  | monteCarloSimulation => "monte_carlo_simulation"
  | goalProbability => "goal_probability"
  | scenarioAnalysis => "scenario_analysis"
  | portfolioRebalance => "portfolio_rebalance"
  | apiRequest => "api_request"

def ofName? (s : String) : Option Feature := all.find? fun f => f.name = s

end Feature
end SubscriptionBilling
