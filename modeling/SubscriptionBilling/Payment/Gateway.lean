import SubscriptionBilling.Payment.Janua
import SubscriptionBilling.Payment.Stripe

/-! The operations of a payment provider, sent to the one that is asked for. -/
namespace SubscriptionBilling.Payment

def createCustomer (s : Settings) (p : Provider) (c : NewCustomer) : Online Json :=
  match p with
  | .stripe => Stripe.createCustomer s c
  | .janua => Janua.createCustomer s c

def createCheckout (s : Settings) (p : Provider) (o : CheckoutOrder) : Online CheckoutSession :=
  match p with
  | .stripe => Stripe.createCheckout s o
  | .janua => Janua.createCheckout s o

def createPortal (s : Settings) (p : Provider) (customer : String) (r : Route)
    (returnUrl : String) : Online Json :=
  match p with
  | .stripe => Stripe.createPortal s customer returnUrl
  | .janua => Janua.createPortal s customer r returnUrl

def cancelSubscription (s : Settings) (p : Provider) (subscriptionId : String) (r : Route) :
    Online Unit :=
  match p with
  | .stripe => Stripe.cancelSubscription s subscriptionId
  | .janua => Janua.cancelSubscription s subscriptionId r

/-- The product that a checkout session sold; the broker does not tell. -/
def checkoutProduct (s : Settings) (p : Provider) (sessionId : String) : Online Json :=
  match p with
  | .stripe => Stripe.checkoutProduct s sessionId
  | .janua => return .null

end SubscriptionBilling.Payment
